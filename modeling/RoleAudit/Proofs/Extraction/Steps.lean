import RoleAudit.Extraction
import RoleAudit.Proofs.Path.Segments

/-!
# Steps of an extraction

An extraction is made of steps that change the disk and may fail. What was done before a failure
stays, so that a property of the disk has to survive every step, whether it succeeds or not.

- `Extracting.run_bind`, `Extracting.run_changing`, `Extracting.run_onDisk`: how steps run;
- `extractAll_eq`: an extraction clears its place and fills it;
- `exists_parts_of_isSourceEntry`: the parts of a name that is selected;
- `value_extractFrom_ok`: an archive is extracted by these steps;
- `Guarantee`: a property of the disk, and a relation between the disks before and after;
- `Guarantee.Of`: a step that keeps the one and stays in the other, and a fact if it succeeds;
- `Guarantee.Of.bind`, `Guarantee.Of.forM`, `Guarantee.Of.mapM`: a rule for each way to put steps
  together;
- `prefix_of_targetOf`: an entry that is let through goes to the root of the extraction or below it;
- `Guarantee.AllowsEntry.extractEntries`: what is guaranteed of each entry is guaranteed of all;
- `Guarantee.AllowsBelow.extractEntries`: so is what is guaranteed below the root.
-/

namespace RoleAudit

open RoleAudit.Path

/-! ## Outcomes -/

theorem exists_eq_ok_of_isOk {ε α : Type} {x : Except ε α} (h : x.isOk = true) :
    ∃ a, x = .ok a := by
  cases x with
  | error e => cases h
  | ok a => exact ⟨a, rfl⟩

theorem eq_error_of_map_eq_error {ε α β : Type} {x : Except ε α} {f : α → β} {e : ε}
    (h : x.map f = .error e) : x = .error e := by
  cases x with
  | error cause => exact congrArg Except.error (Except.error.inj h)
  | ok a => cases h

/-! ## Running a step -/

namespace Extracting

variable {α β : Type}

theorem run_bind (x : Extracting α) (f : α → Extracting β) (d : Disk) :
    (x >>= f).run.run d =
      match x.run.run d with
      | (.ok a, d) => (f a).run.run d
      | (.error e, d) => (.error e, d) := by
  rw [ExceptT.run_bind, StateT.run_bind]
  rcases x.run.run d with ⟨result, d'⟩
  cases result <;> rfl

theorem run_get (d : Disk) : (get : Extracting Disk).run.run d = (.ok d, d) := rfl

theorem run_set (d d' : Disk) : (set d' : Extracting PUnit).run.run d = (.ok ⟨⟩, d') := rfl

/-- What was done to the disk stays, also when it failed. -/
theorem run_changing (act : Disk → Disk × Except DiskError Unit) (d : Disk) :
    (changing act).run.run d = ((act d).2.mapError .unwritable, (act d).1) := by
  unfold changing
  rw [run_bind, run_get]
  dsimp only
  rw [run_bind, run_set]
  dsimp only
  cases (act d).2 <;> rfl

/-- The disk changes as it should, or stays. -/
theorem run_onDisk (act : Disk → Except DiskError Disk) (d : Disk) :
    ((onDisk act).run.run d).2 =
      match act d with
      | .ok d' => d'
      | .error _ => d := by
  unfold onDisk
  rw [run_bind, run_get]
  dsimp only
  cases act d <;> rfl

/-- A directory at the place is removed as far as it can be, and a file stays. -/
theorem run_clearPlace (path : String) (d : Disk) :
    (clearPlace path).run.run d =
      match d.find path with
      | .error _ => (.ok (), d)
      | .ok (_, .file _) => (.error (.unwritable ⟨.notDirectory, path⟩), d)
      | .ok (names, .directory) =>
        match d.removeDirectory path names with
        | (d, none) => (.ok (), d)
        | (d, some cause) => (.error (.unremovable cause path), d) := by
  unfold clearPlace
  rw [run_bind, run_get]
  dsimp only
  rcases d.find path with cause | ⟨names, _ | content⟩
  · rfl
  · dsimp only
    rw [run_bind, run_get]
    dsimp only
    rw [run_bind, run_set]
    dsimp only
    rcases d.removeDirectory path names with ⟨cleared, _ | cause⟩ <;> rfl
  · rfl

/-- When the place is cleared, the disk stays or a directory is removed. -/
theorem disk_clearPlace (path : String) (d : Disk) :
    ((clearPlace path).run.run d).2 = d ∨
      ∃ names, d.find path = .ok (names, .directory) ∧
        ((clearPlace path).run.run d).2 = (d.removeDirectory path names).1 := by
  rw [run_clearPlace]
  rcases d.find path with cause | ⟨names, _ | content⟩
  · exact Or.inl rfl
  · refine Or.inr ⟨names, rfl, ?_⟩
    dsimp only
    rcases d.removeDirectory path names with ⟨cleared, _ | cause⟩ <;> rfl
  · exact Or.inl rfl

end Extracting

/-! ## The stages of an extraction -/

/-- Extract entries below a root, directories first. -/
def extractEntries (root : String) (wanted : List Wanted) :
    Extracting (List (String × String)) := do
  (wanted.filter fun w => w.entry.isDirectory).forM (makeEntryDirectory root)
  (wanted.filter fun w => !w.entry.isDirectory).mapM fun w => do
    return (w.relative, ← writeEntry root w)

/-- Make the place of an extraction, and extract entries to it. -/
def fillPlace (path : String) (wanted : List Wanted) : Extracting (List (String × String)) := do
  changing fun d => d.makePath path
  extractEntries ((← get).absolute path) wanted

/-- An extraction clears its place and fills it. -/
theorem extractAll_eq (path : String) (wanted : List Wanted) :
    extractAll path wanted = (do clearPlace path; fillPlace path wanted) := rfl

/-- Entries are extracted if the place could be made. -/
theorem Extracting.run_fillPlace (path : String) (wanted : List Wanted) (d : Disk) :
    (fillPlace path wanted).run.run d =
      match d.makePath path with
      | (made, .ok _) => (extractEntries (made.absolute path) wanted).run.run made
      | (made, .error e) => (.error (.unwritable e), made) := by
  unfold fillPlace
  rw [run_bind, run_changing]
  rcases d.makePath path with ⟨made, e | _⟩
  · rfl
  · dsimp only [Except.mapError]
    rw [run_bind, run_get]

/-! ## The entries that are wanted -/

/-- A name that is selected starts with the source directory and goes through no excluded one. -/
theorem exists_parts_of_isSourceEntry {relative : String} {isDirectory : Bool}
    {excluded : List String} (h : isSourceEntry relative isDirectory excluded = true) :
    ∃ rest, parts relative = sourceRoot :: rest ∧
      ∀ n ∈ directoriesOf isDirectory (parts relative), n ∉ excluded := by
  unfold isSourceEntry at h
  dsimp only at h
  split at h
  · rename_i first last hfirst hlast
    simp only [Bool.and_eq_true, beq_iff_eq, Bool.not_eq_true'] at h
    rcases h with ⟨⟨hsources, -⟩, hnone⟩
    rcases List.head?_eq_some_iff.1 hfirst with ⟨rest, hparts⟩
    refine ⟨rest, by rw [hparts, hsources], ?_⟩
    simpa using hnone
  · cases h

/-- What is wanted is selected under its relative name. -/
theorem isSourceEntry_of_mem_wantedOf {wrapper : String} {excluded : List String}
    {entries : List Archive.Entry} {w : Wanted} (hw : w ∈ wantedOf wrapper excluded entries) :
    isSourceEntry w.relative w.entry.isDirectory excluded = true := by
  rcases List.mem_filterMap.1 hw with ⟨e, -, he⟩
  split at he
  · split at he
    · cases he
      assumption
    · cases he
  · cases he

/-! ## The extraction of an archive -/

/-- The entries of an archive that belong to the sources. -/
def wantedIn (excluded : List String) (entries : List Archive.Entry) : List Wanted :=
  wantedOf (wrapperOf (entries.map (·.name))) excluded entries

/-- What is reported when the files of an archive were written. -/
def Extraction.ofFiles (path : String) (skipped : Nat) (files : List (String × String)) :
    Extraction where
  path := path
  written := files.map (·.2)
  controllers := (files.filter fun (relative, _) => Text.endsWith relative controllerEnding).map (·.2)
  skipped := skipped

/-- The disk after an extraction is the one that its steps leave, and so is the outcome. -/
theorem value_extractFrom_ok (d : Disk) (entries : List Archive.Entry) (path : String)
    (excluded : List String) :
    (extractFrom d (.ok entries) path excluded).value =
      (((extractAll path (wantedIn excluded entries)).run.run d).2,
        ((extractAll path (wantedIn excluded entries)).run.run d).1.map
          (Extraction.ofFiles path (entries.length - (wantedIn excluded entries).length))) := by
  unfold extractFrom
  dsimp only
  rw [Traced.value_bind]
  unfold wantedIn
  rcases (extractAll path _).run.run d with ⟨_ | files, after⟩ <;> rfl

/-- An extraction that succeeds has gone through all its steps, and tells what they wrote. -/
theorem exists_files_of_extractFrom {d : Disk} {entries : List Archive.Entry} {path : String}
    {excluded : List String} {e : Extraction}
    (he : (extractFrom d (.ok entries) path excluded).value.2 = .ok e) :
    ∃ files, ((extractAll path (wantedIn excluded entries)).run.run d).1 = .ok files ∧
      e = .ofFiles path (entries.length - (wantedIn excluded entries).length) files := by
  rw [value_extractFrom_ok] at he
  cases hresult : ((extractAll path (wantedIn excluded entries)).run.run d).1 with
  | error error =>
      rw [hresult] at he
      cases he
  | ok files =>
      rw [hresult] at he
      cases he
      exact ⟨files, rfl, rfl⟩

/-! ## What steps guarantee -/

/-- What steps keep of a disk, and how the disk after them is related to the one before. -/
structure Guarantee where
  /-- What a disk satisfies before a step and after it. -/
  holds : Disk → Prop
  /-- How the disk before a step is related to the one after it. -/
  relates : Disk → Disk → Prop
  refl : ∀ d, relates d d
  trans : ∀ d d' d'', relates d d' → relates d' d'' → relates d d''

namespace Guarantee

/-- An invariant of the disk, whatever else changes. -/
def ofInvariant (holds : Disk → Prop) : Guarantee where
  holds := holds
  relates _ _ := True
  refl _ := trivial
  trans _ _ _ _ _ := trivial

variable (g : Guarantee) {α β : Type}

/-- A step keeps what is guaranteed, whether it succeeds or not; if it does, a fact holds. -/
def Of (x : Extracting α) (fact : α → Prop) : Prop :=
  ∀ d, g.holds d → g.holds (x.run.run d).2 ∧ g.relates d (x.run.run d).2 ∧
    ∀ a, (x.run.run d).1 = .ok a → fact a

end Guarantee

namespace Guarantee.Of

variable {g : Guarantee} {α β : Type}

theorem pure {fact : α → Prop} {a : α} (h : fact a) : g.Of (Pure.pure a) fact := by
  intro d hd
  refine ⟨hd, g.refl d, ?_⟩
  rintro _ ⟨⟩
  exact h

theorem throw {fact : α → Prop} (e : ExtractionError) : g.Of (MonadExcept.throw e) fact := by
  intro d hd
  refine ⟨hd, g.refl d, ?_⟩
  rintro _ ⟨⟩

theorem bind {x : Extracting α} {f : α → Extracting β} {fact : α → Prop} {fact' : β → Prop}
    (hx : g.Of x fact) (hf : ∀ a, fact a → g.Of (f a) fact') : g.Of (x >>= f) fact' := by
  intro d hd
  rcases hx d hd with ⟨hholds, hrelates, hfact⟩
  rw [Extracting.run_bind]
  rcases hrun : x.run.run d with ⟨result, d'⟩
  rw [hrun] at hholds hrelates hfact
  cases result with
  | error e =>
      refine ⟨hholds, hrelates, ?_⟩
      rintro _ ⟨⟩
  | ok a =>
      rcases hf a (hfact a rfl) d' hholds with ⟨hholds', hrelates', hfact'⟩
      exact ⟨hholds', g.trans _ _ _ hrelates hrelates', hfact'⟩

theorem mono {x : Extracting α} {fact fact' : α → Prop} (hx : g.Of x fact)
    (h : ∀ a, fact a → fact' a) : g.Of x fact' := by
  intro d hd
  rcases hx d hd with ⟨hholds, hrelates, hfact⟩
  exact ⟨hholds, hrelates, fun a ha => h a (hfact a ha)⟩

/-- What can be told without the disk leaves it alone. -/
theorem lift (result : Except ExtractionError α) :
    g.Of (liftM result) fun a => result = .ok a := by
  intro d hd
  cases result with
  | error e =>
      refine ⟨hd, g.refl d, ?_⟩
      rintro _ ⟨⟩
  | ok a =>
      refine ⟨hd, g.refl d, ?_⟩
      rintro _ ⟨⟩
      rfl

/-- Looking at the disk finds what is guaranteed. -/
theorem get_bind {f : Disk → Extracting β} {fact : β → Prop}
    (hf : ∀ d, g.holds d → g.Of (f d) fact) : g.Of (get >>= f) fact :=
  fun d hd => hf d hd d hd

/-- Steps one after the other guarantee what each of them does, and each has succeeded. -/
theorem forM {items : List α} {f : α → Extracting PUnit} {fact : α → Prop}
    (hf : ∀ a ∈ items, g.Of (f a) fun _ => fact a) :
    g.Of (items.forM f) fun _ => ∀ a ∈ items, fact a := by
  induction items with
  | nil => exact Guarantee.Of.pure fun a ha => absurd ha List.not_mem_nil
  | cons a rest ih =>
      have hrest := ih fun b hb => hf b (List.mem_cons_of_mem a hb)
      have hcons : (a :: rest).forM f = f a >>= fun _ => rest.forM f := List.forM_cons
      rw [hcons]
      apply (hf a List.mem_cons_self).bind
      intro _ ha
      apply hrest.mono
      intro _ hall
      exact List.forall_mem_cons.2 ⟨ha, hall⟩

/-- If each step gives what its item says, all of them give this item by item. -/
theorem mapM {items : List α} {f : α → Extracting β} {gives : α → β} {fact : α → Prop}
    (hf : ∀ a ∈ items, g.Of (f a) fun b => b = gives a ∧ fact a) :
    g.Of (items.mapM f) fun bs => bs = items.map gives ∧ ∀ a ∈ items, fact a := by
  induction items with
  | nil => exact Guarantee.Of.pure ⟨rfl, fun a ha => absurd ha List.not_mem_nil⟩
  | cons a rest ih =>
      have hrest := ih fun b hb => hf b (List.mem_cons_of_mem a hb)
      rw [List.mapM_cons]
      apply (hf a List.mem_cons_self).bind
      rintro _ ⟨rfl, ha⟩
      apply hrest.bind
      rintro _ ⟨rfl, hall⟩
      exact Guarantee.Of.pure ⟨rfl, List.forall_mem_cons.2 ⟨ha, hall⟩⟩

theorem changing {act : Disk → Disk × Except DiskError Unit}
    (h : ∀ d, g.holds d → g.holds (act d).1 ∧ g.relates d (act d).1) :
    g.Of (RoleAudit.changing act) fun _ => True := by
  intro d hd
  rw [Extracting.run_changing]
  exact ⟨(h d hd).1, (h d hd).2, fun _ _ => trivial⟩

theorem onDisk {act : Disk → Except DiskError Disk}
    (h : ∀ d d', g.holds d → act d = .ok d' → g.holds d' ∧ g.relates d d') :
    g.Of (RoleAudit.onDisk act) fun _ => True := by
  intro d hd
  rw [Extracting.run_onDisk]
  cases hact : act d with
  | ok d' => exact ⟨(h d d' hd hact).1, (h d d' hd hact).2, fun _ _ => trivial⟩
  | error e => exact ⟨hd, g.refl d, fun _ _ => trivial⟩

end Guarantee.Of

/-! ## Where entries go -/

/-- An entry that is let through goes to the root or below it. -/
theorem prefix_of_targetOf {root : List String} (hroot : ∀ n ∈ root, IsName n)
    {relative target : String} (h : targetOf (fromRoot root) relative = .ok target) :
    target = fromRoot (Path.names (join (fromRoot root) relative)) ∧
      root <+: Path.names (join (fromRoot root) relative) := by
  have hnames := isName_names (join (fromRoot root) relative)
  unfold targetOf Path.absolute at h
  -- of the target only its names matter from here on
  generalize Path.names (join (fromRoot root) relative) = names at h hnames ⊢
  dsimp only at h
  split at h
  · rename_i hinside
    cases h
    refine ⟨rfl, ?_⟩
    rcases Bool.or_eq_true_iff.1 hinside with hsame | hbelow
    · have hnone := fromRoot_injective hnames hroot (beq_iff_eq.1 hsame)
      subst hnone
      exact List.prefix_refl names
    · exact prefix_of_startsWith hroot hnames hbelow
  · cases h

/-! ## Single entries -/

/-- The names at which a wanted entry is put. -/
abbrev Wanted.names (root : List String) (w : Wanted) : List String :=
  Path.names (join (fromRoot root) w.relative)

/--
What is done for one entry that goes to a root or below it stays in what is guaranteed: making its
directory, making the directory of its file, and writing the file.
-/
structure Guarantee.AllowsEntry (g : Guarantee) (root : List String) (w : Wanted) : Prop where
  makeDirectory : w.entry.isDirectory = true → root <+: w.names root → ∀ d, g.holds d →
    g.holds (d.makePath (fromRoot (w.names root))).1 ∧
      g.relates d (d.makePath (fromRoot (w.names root))).1
  makeParent : w.entry.isDirectory = false → root <+: w.names root → ∀ d, g.holds d →
    g.holds (d.makePath (parent (fromRoot (w.names root)))).1 ∧
      g.relates d (d.makePath (parent (fromRoot (w.names root)))).1
  write : w.entry.isDirectory = false → root <+: w.names root → ∀ d d' content, g.holds d →
    d.write (fromRoot (w.names root)) content = .ok d' → g.holds d' ∧ g.relates d d'

namespace Guarantee.AllowsEntry

variable {g : Guarantee} {root : List String} (hroot : ∀ n ∈ root, IsName n)

include hroot

/-- An entry whose directory is made lies at the root or below it. -/
theorem makeEntryDirectory {w : Wanted} (h : g.AllowsEntry root w)
    (hdirectory : w.entry.isDirectory = true) :
    g.Of (makeEntryDirectory (fromRoot root) w) fun _ => root <+: w.names root := by
  apply (Guarantee.Of.lift _).bind
  intro target htarget
  rcases prefix_of_targetOf hroot htarget with ⟨rfl, hbelow⟩
  have hmade : g.Of (changing fun d => d.makePath (fromRoot (w.names root))) fun _ => True :=
    Guarantee.Of.changing (h.makeDirectory hdirectory hbelow)
  exact hmade.mono fun _ _ => hbelow

/-- An entry whose file is written lies at the root or below it, and is written where it goes. -/
theorem writeEntry {w : Wanted} (h : g.AllowsEntry root w)
    (hfile : w.entry.isDirectory = false) :
    g.Of (writeEntry (fromRoot root) w) fun target =>
      target = fromRoot (w.names root) ∧ root <+: w.names root := by
  apply (Guarantee.Of.lift _).bind
  intro target htarget
  rcases prefix_of_targetOf hroot htarget with ⟨rfl, hbelow⟩
  have hparent : g.Of (changing fun d => d.makePath (parent (fromRoot (w.names root))))
      fun _ => True :=
    Guarantee.Of.changing (h.makeParent hfile hbelow)
  have hwrite : ∀ content, g.Of (onDisk fun d => d.write (fromRoot (w.names root)) content)
      fun _ => True := by
    intro content
    apply Guarantee.Of.onDisk
    intro d d' hd hact
    exact h.write hfile hbelow d d' content hd hact
  -- the file is there before its data is read, also when the data is broken
  apply hparent.bind
  intro _ _
  apply (hwrite []).bind
  intro _ _
  cases w.entry.data () with
  | error fault => exact Guarantee.Of.throw _
  | ok data => exact (hwrite data).bind fun _ _ => Guarantee.Of.pure ⟨rfl, hbelow⟩

/-- When all entries are extracted, all of them lie at the root or below it, and the files are told. -/
theorem extractEntries {wanted : List Wanted} (h : ∀ w ∈ wanted, g.AllowsEntry root w) :
    g.Of (RoleAudit.extractEntries (fromRoot root) wanted) fun files =>
      files = (wanted.filter fun w => !w.entry.isDirectory).map
        (fun w => (w.relative, fromRoot (w.names root))) ∧
      ∀ w ∈ wanted, root <+: w.names root := by
  have hdirectories : g.Of ((wanted.filter fun w => w.entry.isDirectory).forM
      (RoleAudit.makeEntryDirectory (fromRoot root)))
      fun _ => ∀ w ∈ wanted.filter fun w => w.entry.isDirectory, root <+: w.names root := by
    apply Guarantee.Of.forM
    intro w hw
    rcases List.mem_filter.1 hw with ⟨hw, hdirectory⟩
    exact makeEntryDirectory hroot (h w hw) hdirectory
  have hfiles : g.Of ((wanted.filter fun w => !w.entry.isDirectory).mapM fun w => do
      return (w.relative, ← RoleAudit.writeEntry (fromRoot root) w))
      fun files => files = (wanted.filter fun w => !w.entry.isDirectory).map
        (fun w => (w.relative, fromRoot (w.names root))) ∧
        ∀ w ∈ wanted.filter fun w => !w.entry.isDirectory, root <+: w.names root := by
    apply Guarantee.Of.mapM
    intro w hw
    rcases List.mem_filter.1 hw with ⟨hw, hfile⟩
    apply (writeEntry hroot (h w hw) (by simpa using hfile)).bind
    rintro _ ⟨rfl, hbelow⟩
    exact Guarantee.Of.pure ⟨rfl, hbelow⟩
  apply hdirectories.bind
  intro _ hmade
  apply hfiles.mono
  rintro _ ⟨rfl, hwritten⟩
  refine ⟨rfl, ?_⟩
  intro w hw
  -- each entry is in one of the two rounds
  cases hdirectory : w.entry.isDirectory with
  | true => exact hmade w (List.mem_filter.2 ⟨hw, hdirectory⟩)
  | false => exact hwritten w (List.mem_filter.2 ⟨hw, by simp [hdirectory]⟩)

end Guarantee.AllowsEntry

/-! ## Entries below a root -/

/-- Making directories and writing files at a root or below it stays in what is guaranteed. -/
structure Guarantee.AllowsBelow (g : Guarantee) (root : List String) : Prop where
  makePath : ∀ {d : Disk} {names : List String} {left : String}, g.holds d →
    (∀ n ∈ names, IsName n) → root <+: names → Begins left (fromRoot names) → left ≠ "" →
    g.holds (d.makePath left).1 ∧ g.relates d (d.makePath left).1
  write : ∀ {d d' : Disk} {names : List String} {content : Octets}, g.holds d →
    (∀ n ∈ names, IsName n) → root <+: names → d.write (fromRoot names) content = .ok d' →
    g.holds d' ∧ g.relates d d'

namespace Guarantee.AllowsBelow

variable {g : Guarantee} {root : List String} (h : g.AllowsBelow root)

include h

/-- What is guaranteed below a root is guaranteed of every entry. -/
theorem allowsEntry (w : Wanted) : g.AllowsEntry root w where
  makeDirectory _ hbelow _ hd :=
    h.makePath hd (isName_names _) hbelow (Begins.refl _) (fromRoot_ne_empty _)
  makeParent _ hbelow _ hd :=
    h.makePath hd (isName_names _) hbelow (begins_parent _)
      (ne_empty_of_isAbsolute (isAbsolute_parent (isAbsolute_fromRoot _)))
  write _ hbelow _ _ _ hd hact := h.write hd (isName_names _) hbelow hact

/-- When all entries are extracted, all of them lie at the root or below it. -/
theorem extractEntries (hroot : ∀ n ∈ root, IsName n) (wanted : List Wanted) :
    g.Of (RoleAudit.extractEntries (fromRoot root) wanted)
      fun _ => ∀ w ∈ wanted, root <+: Path.names (join (fromRoot root) w.relative) := by
  apply (AllowsEntry.extractEntries hroot fun w _ => h.allowsEntry w).mono
  intro _ hfacts
  exact hfacts.2

end Guarantee.AllowsBelow

end RoleAudit
