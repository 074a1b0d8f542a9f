import RoleAudit.Proofs.Disk.Making
import RoleAudit.Proofs.Extraction.Faults
import RoleAudit.Proofs.Extraction.Origin

/-!
# What entries leave on the disk

Each entry makes the directories on its way, and a file takes the place of one that went there
before. Steps that follow each other leave what each of them leaves:

- `lastAt`: the last file among entries that goes to some names;
- `Laid`: what is on a disk after entries are extracted, told by what was there before;
- `Laid.append`: entries after entries;
- `laid_makeEntryDirectory`, `laid_writeEntry`: one entry;
- `laid_extractEntries`: all entries, in the order in which they are wanted;
- `Extracting.Follows`: a step that succeeds on one disk succeeds on one that looks alike;
- `extractEntries_rearranged`: directories may be wanted in any order and at any place.
-/

namespace RoleAudit

open RoleAudit.Path

/-! ## Steps that succeed -/

namespace Extracting

variable {α β : Type} {d d' : Disk}

theorem run_lift_eq_ok_iff {result : Except ExtractionError α} {a : α} :
    (liftM result : Extracting α).run.run d = (.ok a, d') ↔ result = .ok a ∧ d = d' := by
  constructor
  · intro h
    cases result with
    | error e => cases h
    | ok b =>
        cases h
        exact ⟨rfl, rfl⟩
  · rintro ⟨rfl, rfl⟩
    rfl

theorem run_changing_eq_ok_iff {act : Disk → Disk × Except DiskError Unit} {u : Unit} :
    (changing act).run.run d = (.ok u, d') ↔ (act d).2 = .ok () ∧ (act d).1 = d' := by
  rw [run_changing]
  rcases act d with ⟨after, e | _⟩
  · constructor
    · intro h
      cases h
    · rintro ⟨⟨⟩, -⟩
  · constructor
    · intro h
      cases h
      exact ⟨rfl, rfl⟩
    · rintro ⟨-, rfl⟩
      rfl

theorem run_onDisk_eq_ok_iff {act : Disk → Except DiskError Disk} {u : Unit} :
    (onDisk act).run.run d = (.ok u, d') ↔ act d = .ok d' := by
  unfold onDisk
  rw [run_bind, run_get]
  dsimp only
  cases act d with
  | error e =>
      constructor
      · intro h
        cases h
      · intro h
        cases h
  | ok after =>
      constructor
      · intro h
        cases h
        rfl
      · intro h
        cases h
        rfl

end Extracting

/-! ## What is there after entries -/

/-- The last file among entries that goes to some names. -/
def lastAt (root : List String) (ws : List Wanted) (names : List String) : Option Wanted :=
  ((filesOf ws).filter fun w => w.names root == names).getLast?

theorem filesOf_append (ws ws' : List Wanted) : filesOf (ws ++ ws') = filesOf ws ++ filesOf ws' :=
  List.filter_append ws ws'

theorem lastAt_append (root : List String) (ws ws' : List Wanted) (names : List String) :
    lastAt root (ws ++ ws') names = (lastAt root ws' names).or (lastAt root ws names) := by
  unfold lastAt
  rw [filesOf_append, List.filter_append, List.getLast?_append]

/--
After entries are extracted there are their directories and those that were there before, the last
file that goes to each place, and the files of all other places.
-/
structure Laid (root : List String) (ws : List Wanted) (d d' : Disk) : Prop where
  workplace : d'.workplace = d.workplace
  directory : ∀ names, d'.at? names = some .directory ↔
    d.at? names = some .directory ∨ ∃ w ∈ ws, names <+: w.directory root
  file : ∀ names content, d'.at? names = some (.file content) ↔
    (∃ w, lastAt root ws names = some w ∧ w.entry.data () = .ok content) ∨
      (lastAt root ws names = none ∧ d.at? names = some (.file content))

namespace Laid

variable {root : List String} {ws ws' : List Wanted} {d d' d'' : Disk}

theorem nil (root : List String) (d : Disk) : Laid root [] d d where
  workplace := rfl
  directory names := by simp
  file names content := by simp [lastAt, filesOf]

/-- Entries after entries: the later files win, and no directory is lost. -/
theorem append (h : Laid root ws d d') (h' : Laid root ws' d' d'') :
    Laid root (ws ++ ws') d d'' where
  workplace := h'.workplace.trans h.workplace
  directory names := by
    rw [h'.directory, h.directory, or_assoc]
    simp only [List.mem_append, or_and_right, exists_or]
  file names content := by
    rw [h'.file, lastAt_append]
    cases lastAt root ws' names with
    | none => simp [h.file]
    | some w => simp

/-- Only the files have to be told in order. -/
theorem congr (h : Laid root ws d d') (hmem : ∀ w, w ∈ ws' ↔ w ∈ ws)
    (hfiles : filesOf ws' = filesOf ws) : Laid root ws' d d' where
  workplace := h.workplace
  directory names := by
    rw [h.directory]
    simp only [hmem]
  file names content := by
    have hlast : lastAt root ws' names = lastAt root ws names := by
      unfold lastAt
      rw [hfiles]
    rw [h.file, hlast]

/-- What the same entries leave on a disk is told by that disk. -/
theorem alike (h : Laid root ws d d') (h' : Laid root ws d d'') : Disk.Alike d' d'' := by
  refine ⟨h'.workplace.trans h.workplace.symm, funext fun names => Option.ext fun e => ?_⟩
  cases e with
  | directory => exact (h'.directory names).trans (h.directory names).symm
  | file content => exact (h'.file names content).trans (h.file names content).symm

end Laid

/-! ## One entry -/

section Entry

variable {root : List String} (hroot : ∀ n ∈ root, IsName n) {w : Wanted} {d d' : Disk}

include hroot

theorem makeEntryDirectory_eq_ok_iff (hd : d.IsPlaced) {u : Unit} :
    (makeEntryDirectory (fromRoot root) w).run.run d = (.ok u, d') ↔
      (∃ target, targetOf (fromRoot root) w.relative = .ok target) ∧ d.Passable (w.names root) ∧
        (d.makePath (fromRoot (w.names root))).1 = d' := by
  have hmake := Disk.makePath_fromRoot_iff hd (isName_names (join (fromRoot root) w.relative))
  unfold makeEntryDirectory
  simp only [Extracting.run_bind_eq_ok_iff, Extracting.run_lift_eq_ok_iff,
    Extracting.run_changing_eq_ok_iff]
  constructor
  · rintro ⟨target, _, ⟨htarget, rfl⟩, hok, rfl⟩
    rcases prefix_of_targetOf hroot htarget with ⟨rfl, -⟩
    exact ⟨⟨_, htarget⟩, hmake.1 hok, rfl⟩
  · rintro ⟨⟨target, htarget⟩, hpass, hmade⟩
    rcases prefix_of_targetOf hroot htarget with ⟨rfl, -⟩
    exact ⟨_, d, ⟨htarget, rfl⟩, hmake.2 hpass, hmade⟩

/-- The directory of an entry is made with those above it. -/
theorem laid_makeEntryDirectory (hd : d.IsPlaced) (hdirectory : w.entry.isDirectory = true)
    {u : Unit} (h : (makeEntryDirectory (fromRoot root) w).run.run d = (.ok u, d')) :
    Laid root [w] d d' := by
  have hnames := isName_names (join (fromRoot root) w.relative)
  rcases (makeEntryDirectory_eq_ok_iff hroot hd).1 h with ⟨-, hpass, rfl⟩
  have hok := (Disk.makePath_fromRoot_iff hd hnames).2 hpass
  refine ⟨(Disk.grown_makePath hd _).workplace, ?_, ?_⟩
  · intro names
    rw [Disk.directory_makePath_fromRoot_iff hd hnames hok]
    simp [Wanted.directory, hdirectory]
  · intro names content
    rw [Disk.file_makePath_fromRoot_iff hd hnames hok]
    simp [lastAt, filesOf, hdirectory]

/--
The file of an entry is written when the directories above it could be made, no directory is in its
place, and its data could be read. It was empty at first.
-/
theorem exists_made_of_writeEntry (hd : d.IsPlaced) {target : String}
    (h : (writeEntry (fromRoot root) w).run.run d = (.ok target, d')) :
    ∃ made data, (d.makePath (fromRoot (w.names root).dropLast)).2 = .ok () ∧
      (d.makePath (fromRoot (w.names root).dropLast)).1 = made ∧
      made.at? (w.names root) ≠ some .directory ∧ w.entry.data () = .ok data ∧
      (made.put (w.names root) (.file [])).put (w.names root) (.file data) = d' := by
  have hnames := isName_names (join (fromRoot root) w.relative)
  unfold writeEntry at h
  simp only [Extracting.run_bind_eq_ok_iff, Extracting.run_lift_eq_ok_iff,
    Extracting.run_changing_eq_ok_iff, Extracting.run_onDisk_eq_ok_iff] at h
  obtain ⟨_, _, ⟨htarget, rfl⟩, -, made, ⟨hok, hmade⟩, -, opened, hopen, hrest⟩ := h
  rcases prefix_of_targetOf hroot htarget with ⟨rfl, -⟩
  rw [parent_fromRoot hnames] at hok hmade
  have hgrown := Disk.grown_makePath hd (fromRoot (w.names root).dropLast)
  rw [hmade] at hgrown
  have hplaced := Disk.isPlaced_congr hgrown.workplace hd
  have hplace : ∀ other : Disk, other.namesAt (fromRoot (w.names root)) = w.names root :=
    fun other => Disk.namesAt_fromRoot other hnames
  rcases Disk.write_eq_ok hplaced hopen with ⟨hfree, rfl⟩
  -- the data are read after the file was opened
  cases hdata : w.entry.data () with
  | error fault =>
      rw [hdata] at hrest
      cases hrest
  | ok data =>
      simp only [hdata, Extracting.run_bind_eq_ok_iff, Extracting.run_onDisk_eq_ok_iff] at hrest
      obtain ⟨-, written, hwrite, hpure⟩ := hrest
      cases hpure
      rw [hplace] at hfree hwrite
      have hopened : (made.put (w.names root) (.file [])).IsPlaced := hplaced
      have hwritten := (Disk.write_eq_ok hopened hwrite).2
      rw [hplace] at hwritten
      exact ⟨made, data, hok, hmade, hfree, rfl, hwritten.symm⟩

omit hroot in
theorem lastAt_singleton (hfile : w.entry.isDirectory = false) (names : List String) :
    lastAt root [w] names = if w.names root = names then some w else none := by
  by_cases hsame : w.names root = names <;> simp [lastAt, filesOf, hfile, hsame]

/-- The file of an entry is put at its place, in directories that are made for it. -/
theorem laid_writeEntry (hd : d.IsPlaced) (hfile : w.entry.isDirectory = false) {target : String}
    (h : (writeEntry (fromRoot root) w).run.run d = (.ok target, d')) : Laid root [w] d d' := by
  have hnames := isName_names (join (fromRoot root) w.relative)
  have hupper : ∀ n ∈ (w.names root).dropLast, IsName n :=
    fun n hn => hnames n (List.dropLast_subset _ hn)
  obtain ⟨made, data, hok, hmade, hfree, hdata, hput⟩ := exists_made_of_writeEntry hroot hd h
  have hgrown := Disk.grown_makePath hd (fromRoot (w.names root).dropLast)
  have hdirectory := fun names =>
    @Disk.directory_makePath_fromRoot_iff d _ hd hupper hok names
  have hkept := fun names content =>
    @Disk.file_makePath_fromRoot_iff d _ hd hupper hok names content
  rw [hmade] at hgrown
  simp only [hmade] at hdirectory hkept
  have hne : w.names root ≠ [] := by
    intro hnil
    rw [hnil] at hfree
    exact hfree rfl
  have hself : d'.at? (w.names root) = some (.file data) := by
    rw [← hput]
    exact Disk.at?_put_self _ _ hne
  have hother : ∀ names, names ≠ w.names root → d'.at? names = made.at? names := by
    intro names hnames
    rw [← hput, Disk.at?_put_of_ne _ _ hnames, Disk.at?_put_of_ne _ _ hnames]
  refine ⟨?_, ?_, ?_⟩
  · rw [← hput]
    exact hgrown.workplace
  · intro names
    by_cases hsame : names = w.names root
    · -- there is a file now, and there was no directory before
      rw [← hsame] at hself hfree
      rw [hself]
      simpa [Wanted.directory, hfile, hdirectory] using hfree
    · rw [hother names hsame, hdirectory]
      simp [Wanted.directory, hfile]
  · intro names content
    rw [lastAt_singleton hfile]
    by_cases hsame : w.names root = names
    · subst hsame
      simp [hself, hdata]
    · rw [hother names (Ne.symm hsame), hkept]
      simp [hsame]

end Entry

/-! ## All entries -/

section Entries

variable {root : List String} (hroot : ∀ n ∈ root, IsName n)

/-- Steps for entries leave what each of them leaves. -/
theorem laid_mapM {β : Type} {f : Wanted → Extracting β} {ws : List Wanted}
    (hf : ∀ w ∈ ws, ∀ {d d' : Disk} {b : β}, d.IsPlaced → (f w).run.run d = (.ok b, d') →
      Laid root [w] d d')
    {d d' : Disk} (hd : d.IsPlaced) {bs : List β} (h : (ws.mapM f).run.run d = (.ok bs, d')) :
    Laid root ws d d' := by
  induction ws generalizing d bs with
  | nil =>
      cases h
      exact Laid.nil root _
  | cons w rest ih =>
      rw [List.mapM_cons, Extracting.run_bind_eq_ok_iff] at h
      obtain ⟨b, between, hfirst, hlater⟩ := h
      obtain ⟨bs', after, hrest, hpure⟩ := Extracting.run_bind_eq_ok_iff.1 hlater
      cases hpure
      have hlaid := hf w List.mem_cons_self hd hfirst
      have hplaced := Disk.isPlaced_congr hlaid.workplace hd
      exact hlaid.append (ih (fun w hw => hf w (List.mem_cons_of_mem _ hw)) hplaced hrest)

/-- Steps without results do so, too. -/
theorem laid_forM {f : Wanted → Extracting PUnit} {ws : List Wanted}
    (hf : ∀ w ∈ ws, ∀ {d d' : Disk} {u : PUnit}, d.IsPlaced → (f w).run.run d = (.ok u, d') →
      Laid root [w] d d')
    {d d' : Disk} (hd : d.IsPlaced) {u : PUnit} (h : (ws.forM f).run.run d = (.ok u, d')) :
    Laid root ws d d' := by
  induction ws generalizing d with
  | nil =>
      cases h
      exact Laid.nil root _
  | cons w rest ih =>
      have hcons : (w :: rest).forM f = f w >>= fun _ => rest.forM f := List.forM_cons
      rw [hcons, Extracting.run_bind_eq_ok_iff] at h
      obtain ⟨_, between, hfirst, hlater⟩ := h
      have hlaid := hf w List.mem_cons_self hd hfirst
      have hplaced := Disk.isPlaced_congr hlaid.workplace hd
      exact hlaid.append (ih (fun w hw => hf w (List.mem_cons_of_mem _ hw)) hplaced hlater)

theorem filesOf_filter_isDirectory (ws : List Wanted) :
    filesOf (ws.filter fun w => w.entry.isDirectory) = [] := by
  simp [filesOf, List.filter_filter]

theorem filesOf_filesOf (ws : List Wanted) : filesOf (filesOf ws) = filesOf ws := by
  simp [filesOf, List.filter_filter]

theorem mem_filesOf {ws : List Wanted} {w : Wanted} :
    w ∈ filesOf ws ↔ w ∈ ws ∧ w.entry.isDirectory = false := by
  simp [filesOf]

include hroot

/-- The directories that are wanted are made first. -/
theorem laid_makeDirectories {wanted : List Wanted} {d d' : Disk} (hd : d.IsPlaced) {u : PUnit}
    (h : ((wanted.filter fun w => w.entry.isDirectory).forM
      (makeEntryDirectory (fromRoot root))).run.run d = (.ok u, d')) :
    Laid root (wanted.filter fun w => w.entry.isDirectory) d d' := by
  refine laid_forM ?_ hd h
  intro w hw before after u hplaced hrun
  exact laid_makeEntryDirectory hroot hplaced (List.mem_filter.1 hw).2 hrun

theorem laid_writeEach {files : List Wanted} (hfiles : ∀ w ∈ files, w.entry.isDirectory = false)
    {d d' : Disk} (hd : d.IsPlaced) {written : List (String × String)}
    (h : (writeEach (fromRoot root) files).run.run d = (.ok written, d')) :
    Laid root files d d' := by
  refine laid_mapM ?_ hd h
  intro w hw before after told hplaced hrun
  obtain ⟨target, between, hwrite, hpure⟩ := Extracting.run_bind_eq_ok_iff.1 hrun
  cases hpure
  exact laid_writeEntry hroot hplaced (hfiles w hw) hwrite

/-- All entries leave what they leave one by one, although the directories go first. -/
theorem laid_extractEntries {wanted : List Wanted} {d d' : Disk} (hd : d.IsPlaced)
    {written : List (String × String)}
    (h : (extractEntries (fromRoot root) wanted).run.run d = (.ok written, d')) :
    Laid root wanted d d' := by
  obtain ⟨_, made, hfirst, hsecond⟩ := Extracting.run_bind_eq_ok_iff.1 h
  have hdirectories := laid_makeDirectories hroot hd hfirst
  have hfiles : Laid root (filesOf wanted) made d' := by
    apply laid_writeEach hroot
    · exact fun w hw => (mem_filesOf.1 hw).2
    · exact Disk.isPlaced_congr hdirectories.workplace hd
    · exact hsecond
  apply (hdirectories.append hfiles).congr
  · intro w
    rw [List.mem_append, List.mem_filter, mem_filesOf, ← and_or_left]
    simp
  · rw [filesOf_append, filesOf_filter_isDirectory, filesOf_filesOf, List.nil_append]

end Entries

/-! ## The same steps on another disk -/

/-- A step that succeeds on one disk succeeds on one that looks alike, and leaves them alike. -/
def Extracting.Follows {α : Type} (x : Extracting α) : Prop :=
  ∀ (d d' other : Disk) (a : α), Disk.Alike d other → x.run.run d = (.ok a, d') →
    ∃ other', x.run.run other = (.ok a, other') ∧ Disk.Alike d' other'

namespace Extracting.Follows

variable {α β : Type}

theorem pure (a : α) : (Pure.pure a : Extracting α).Follows := by
  intro d d' other b halike h
  cases h
  exact ⟨other, rfl, halike⟩

theorem throw (e : ExtractionError) : (MonadExcept.throw e : Extracting α).Follows := by
  intro d d' other a _ h
  cases h

theorem lift (result : Except ExtractionError α) : (liftM result : Extracting α).Follows := by
  intro d d' other a halike h
  obtain ⟨hresult, rfl⟩ := run_lift_eq_ok_iff.1 h
  exact ⟨other, run_lift_eq_ok_iff.2 ⟨hresult, rfl⟩, halike⟩

theorem bind {x : Extracting α} {f : α → Extracting β} (hx : x.Follows)
    (hf : ∀ a, (f a).Follows) : (x >>= f).Follows := by
  intro d d' other b halike h
  obtain ⟨a, between, hfirst, hlater⟩ := run_bind_eq_ok_iff.1 h
  obtain ⟨between', hfirst', halike'⟩ := hx d between other a halike hfirst
  obtain ⟨after', hlater', halike''⟩ := hf a between d' between' b halike' hlater
  exact ⟨after', run_bind_eq_ok_iff.2 ⟨a, between', hfirst', hlater'⟩, halike''⟩

theorem mapM {items : List α} {f : α → Extracting β} (hf : ∀ a, (f a).Follows) :
    (items.mapM f).Follows := by
  induction items with
  | nil => exact Follows.pure []
  | cons a rest ih =>
      rw [List.mapM_cons]
      exact (hf a).bind fun b => ih.bind fun bs => Follows.pure _

theorem makePath (path : String) : (changing fun d => d.makePath path).Follows := by
  intro d d' other u halike h
  obtain ⟨hok, rfl⟩ := run_changing_eq_ok_iff.1 h
  obtain ⟨hresult, hmade⟩ := halike.makePath path
  exact ⟨_, run_changing_eq_ok_iff.2 ⟨hresult.trans hok, rfl⟩, hmade⟩

theorem write (path : String) (content : Octets) :
    (onDisk fun d => d.write path content).Follows := by
  intro d d' other u halike h
  obtain ⟨written, hwrite, halike'⟩ := halike.write (run_onDisk_eq_ok_iff.1 h)
  exact ⟨written, run_onDisk_eq_ok_iff.2 hwrite, halike'⟩

end Extracting.Follows

theorem follows_writeEntry (root : String) (w : Wanted) : (writeEntry root w).Follows := by
  apply (Extracting.Follows.lift _).bind
  intro target
  apply (Extracting.Follows.makePath _).bind
  intro _
  apply (Extracting.Follows.write target []).bind
  intro _
  cases w.entry.data () with
  | error fault => exact Extracting.Follows.throw _
  | ok data => exact (Extracting.Follows.write target data).bind fun _ => .pure target

theorem follows_writeEach (root : String) (files : List Wanted) :
    (writeEach root files).Follows :=
  Extracting.Follows.mapM fun w => (follows_writeEntry root w).bind fun _ => .pure _

/-! ## Directories in another order -/

section Rearranged

variable {root : List String} (hroot : ∀ n ∈ root, IsName n) {d : Disk} (hd : d.IsPlaced)

include hroot hd

/-- Directories can be made if each of them can be made by itself. -/
theorem exists_run_makeDirectories_iff {ws : List Wanted} :
    (∃ d', (ws.forM (makeEntryDirectory (fromRoot root))).run.run d = (.ok ⟨⟩, d')) ↔
      ∀ w ∈ ws, (∃ target, targetOf (fromRoot root) w.relative = .ok target) ∧
        d.Passable (w.names root) := by
  -- making one of them puts no file in the way of another
  induction ws generalizing d with
  | nil => exact ⟨fun _ w hw => absurd hw List.not_mem_nil, fun _ => ⟨d, rfl⟩⟩
  | cons w rest ih =>
      have hcons : (w :: rest).forM (makeEntryDirectory (fromRoot root)) =
          makeEntryDirectory (fromRoot root) w >>=
            fun _ => rest.forM (makeEntryDirectory (fromRoot root)) := List.forM_cons
      have hnames := isName_names (join (fromRoot root) w.relative)
      have hgrown := Disk.grown_makePath hd (fromRoot (w.names root))
      have hlater := ih (Disk.isPlaced_congr hgrown.workplace hd)
      have hsame : d.Passable (w.names root) → ∀ names,
          (d.makePath (fromRoot (w.names root))).1.Passable names ↔ d.Passable names := by
        intro hpass names
        apply Disk.passable_congr
        intro other content
        exact Disk.file_makePath_fromRoot_iff hd hnames
          ((Disk.makePath_fromRoot_iff hd hnames).2 hpass)
      simp only [hcons, Extracting.run_bind_eq_ok_iff, makeEntryDirectory_eq_ok_iff hroot hd,
        List.forall_mem_cons]
      constructor
      · rintro ⟨after, _, between, ⟨htarget, hpass, rfl⟩, hrest⟩
        refine ⟨⟨htarget, hpass⟩, ?_⟩
        intro w' hw'
        have hother := hlater.1 ⟨after, hrest⟩ w' hw'
        exact ⟨hother.1, (hsame hpass _).1 hother.2⟩
      · rintro ⟨⟨htarget, hpass⟩, hothers⟩
        have hrest := hlater.2 fun w' hw' => ⟨(hothers w' hw').1, (hsame hpass _).2 (hothers w' hw').2⟩
        obtain ⟨after, hafter⟩ := hrest
        exact ⟨after, ⟨⟩, _, ⟨htarget, hpass, rfl⟩, hafter⟩

/-- Entries can be extracted with their directories in any order and at any place among the files. -/
theorem extractEntries_rearranged {wanted wanted' : List Wanted}
    (hmem : ∀ w, w ∈ wanted' ↔ w ∈ wanted) (hfiles : filesOf wanted' = filesOf wanted)
    {d' : Disk} {written : List (String × String)}
    (h : (extractEntries (fromRoot root) wanted).run.run d = (.ok written, d')) :
    ∃ d'', (extractEntries (fromRoot root) wanted').run.run d = (.ok written, d'') ∧
      Disk.Alike d' d'' := by
  obtain ⟨_, made, hfirst, hsecond⟩ := Extracting.run_bind_eq_ok_iff.1 h
  have hmem' : ∀ w, w ∈ (wanted'.filter fun w => w.entry.isDirectory) ↔
      w ∈ wanted.filter fun w => w.entry.isDirectory := by
    intro w
    rw [List.mem_filter, List.mem_filter, hmem]
  have hall := (exists_run_makeDirectories_iff hroot hd).1 ⟨made, hfirst⟩
  obtain ⟨made', hfirst'⟩ := (exists_run_makeDirectories_iff hroot hd).2
    fun w hw => hall w ((hmem' w).1 hw)
  -- both orders make the same directories, and the files are the same
  have hlaid := laid_makeDirectories hroot hd hfirst
  have hlaid' := laid_makeDirectories hroot hd hfirst'
  have halike : Disk.Alike made made' := by
    refine hlaid.alike (hlaid'.congr (fun w => (hmem' w).symm) ?_)
    rw [filesOf_filter_isDirectory, filesOf_filter_isDirectory]
  obtain ⟨d'', hsecond', halike'⟩ :=
    follows_writeEach (fromRoot root) (filesOf wanted) made d' made' written halike hsecond
  refine ⟨d'', Extracting.run_bind_eq_ok_iff.2 ⟨⟨⟩, made', hfirst', ?_⟩, halike'⟩
  rw [← hfiles] at hsecond'
  exact hsecond'

end Rearranged

end RoleAudit
