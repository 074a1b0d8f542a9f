import RoleAudit.Proofs.Extraction.Faults
import RoleAudit.Proofs.Extraction.Lockstep

/-!
# Backslashes in the names of entries

Some systems archive a project with backslashes between the names of directories. They are read as
slashes, but not at the end of a name: an entry is a directory only if its name ends with a slash. What
is written with a backslash there is taken for a file.

- `Respelled`, `IsRespelled`: a name and an entry with backslashes for some slashes;
- `takenAs`, `TakenAlike`: as what an entry is extracted, if it is, and entries extracted as the same;
- `takenAlike_iff`: a directory whose last slash is lost is taken alike only if it is left out anyway;
- `extractFrom_respelled`: an archive with backslashes is extracted like the one with slashes if all
  its entries are taken alike, and otherwise never when that one is extracted without an error.
-/

namespace RoleAudit

/-! ## Names -/

/-- A name, and the same one with backslashes for some of its slashes. -/
def Respelled (name name' : String) : Prop :=
  List.Forall₂ (fun c c' => c' = c ∨ c = '/' ∧ c' = '\\') name.toList name'.toList

instance : DecidableRel Respelled := fun name name' =>
  inferInstanceAs (Decidable (List.Forall₂ _ name.toList name'.toList))

namespace Respelled

variable {name name' : String} (h : Respelled name name')

include h

theorem slashed_eq : slashed name' = slashed name := by
  unfold Respelled at h
  have hchars : name'.toList.map (fun c => if c == '\\' then '/' else c) =
      name.toList.map (fun c => if c == '\\' then '/' else c) := by
    generalize name.toList = cs, name'.toList = cs' at h
    induction h with
    | nil => rfl
    | cons hc _ ih =>
        rw [List.map_cons, List.map_cons, ih]
        rcases hc with rfl | ⟨rfl, rfl⟩ <;> rfl
  unfold slashed Text.swap
  rw [hchars]

theorem isEmpty_eq : name'.isEmpty = name.isEmpty := by
  have hnil : name'.toList = [] ↔ name.toList = [] := by
    rw [← List.length_eq_zero_iff, ← List.length_eq_zero_iff, List.Forall₂.length_eq h]
  rw [Bool.eq_iff_iff, String.isEmpty_iff, String.isEmpty_iff]
  simpa using hnil

theorem relativeName?_eq (wrapper : String) :
    relativeName? wrapper name' = relativeName? wrapper name := by
  unfold relativeName?
  rw [h.slashed_eq]

/-- A slash at the end was there before. -/
theorem endsWith_slash (hslash : Text.endsWith name' "/" = true) :
    Text.endsWith name "/" = true := by
  have hends : "/".toList = ['/'] := rfl
  unfold Text.endsWith at hslash ⊢
  rw [hends, List.isSuffixOf_iff_suffix, List.singleton_suffix_iff_getLast?_eq_some] at hslash ⊢
  unfold Respelled at h
  generalize name.toList = cs, name'.toList = cs' at h hslash
  induction h with
  | nil => exact hslash
  | @cons c c' cs cs' hc hcs ih =>
      -- only the last character counts, and a backslash does not become a slash
      cases hcs with
      | nil =>
          rcases hc with rfl | ⟨rfl, rfl⟩
          · exact hslash
          · exact absurd hslash (by decide)
      | cons _ _ =>
          rw [List.getLast?_cons_cons] at hslash ⊢
          exact ih hslash

end Respelled

/-! ## Entries -/

/-- An entry, and what it is in an archive with backslashes for some slashes of its name. -/
structure IsRespelled (e e' : Archive.Entry) : Prop where
  name : Respelled e.name e'.name
  data : Archive.SameData (e.data ()) (e'.data ())

theorem IsRespelled.isDirectory {e e' : Archive.Entry} (h : IsRespelled e e')
    (hdirectory : e'.isDirectory = true) : e.isDirectory = true :=
  h.name.endsWith_slash hdirectory

/-- The same directory is found around both projects. -/
theorem wrapperOf_respelled {entries entries' : List Archive.Entry}
    (h : List.Forall₂ IsRespelled entries entries') :
    wrapperOf (entries'.map (·.name)) = wrapperOf (entries.map (·.name)) := by
  have hclean : ((entries'.map (·.name)).filter fun n => !n.isEmpty).map slashed =
      ((entries.map (·.name)).filter fun n => !n.isEmpty).map slashed := by
    induction h with
    | nil => rfl
    | @cons e e' _ _ he _ ih =>
        rw [List.map_cons, List.map_cons, List.filter_cons, List.filter_cons, he.name.isEmpty_eq]
        split
        · rw [List.map_cons, List.map_cons, he.name.slashed_eq, ih]
        · exact ih
  unfold wrapperOf
  rw [hclean]

section Taken

variable (wrapper : String) (excluded : List String)

/-- The relative name that an entry is extracted under, and whether it is a directory. -/
def takenAs (e : Archive.Entry) : Option (String × Bool) :=
  ((relativeName? wrapper e.name).filter fun relative =>
    isSourceEntry relative e.isDirectory excluded).map fun relative => (relative, e.isDirectory)

/-- Whether an entry that is extracted is a directory. -/
def kindTaken (e : Archive.Entry) : Option Bool :=
  (takenAs wrapper excluded e).map (·.2)

/-- Two entries are extracted under one name as things of one kind, or neither is extracted. -/
def TakenAlike (e e' : Archive.Entry) : Prop :=
  takenAs wrapper excluded e' = takenAs wrapper excluded e

instance : DecidableRel (TakenAlike wrapper excluded) := fun e e' =>
  inferInstanceAs (Decidable (takenAs wrapper excluded e' = takenAs wrapper excluded e))

variable {wrapper excluded}

/-- What is wanted are the entries that are taken. -/
theorem wantedOf_eq (entries : List Archive.Entry) :
    wantedOf wrapper excluded entries =
      entries.filterMap fun e => (takenAs wrapper excluded e).map fun taken => ⟨taken.1, e⟩ := by
  unfold wantedOf takenAs
  congr 1
  funext e
  cases relativeName? wrapper e.name with
  | none => rfl
  | some relative =>
      rw [Option.filter_some]
      dsimp only
      split <;> rfl

/-- As many entries of one kind are wanted as are taken for it. -/
theorem countP_wantedOf (entries : List Archive.Entry) (kind : Bool) :
    (wantedOf wrapper excluded entries).countP (fun w => w.entry.isDirectory == kind) =
      entries.countP fun e => kindTaken wrapper excluded e == some kind := by
  rw [wantedOf_eq, List.countP_filterMap]
  congr 1
  funext e
  unfold kindTaken takenAs
  cases (relativeName? wrapper e.name).filter fun relative =>
    isSourceEntry relative e.isDirectory excluded <;> rfl

theorem takenAs_eq_some_iff {e : Archive.Entry} {relative : String} {kind : Bool} :
    takenAs wrapper excluded e = some (relative, kind) ↔
      relativeName? wrapper e.name = some relative ∧ e.isDirectory = kind ∧
        isSourceEntry relative kind excluded = true := by
  unfold takenAs
  rw [Option.map_eq_some_iff]
  constructor
  · rintro ⟨relative', hfilter, heq⟩
    obtain ⟨rfl, rfl⟩ := Prod.mk.inj heq
    rw [Option.filter_eq_some_iff] at hfilter
    exact ⟨hfilter.1, rfl, hfilter.2⟩
  · rintro ⟨hname, rfl, hselected⟩
    exact ⟨relative, Option.filter_eq_some_iff.2 ⟨hname, hselected⟩, rfl⟩

theorem isDirectory_of_kindTaken {e : Archive.Entry} {kind : Bool}
    (h : kindTaken wrapper excluded e = some kind) : e.isDirectory = kind := by
  obtain ⟨⟨relative, kind'⟩, htaken, rfl⟩ := Option.map_eq_some_iff.1 h
  exact (takenAs_eq_some_iff.1 htaken).2.1

variable {e e' : Archive.Entry} (h : IsRespelled e e')

include h

/-- What stays a directory, or a file, is taken alike. -/
theorem takenAlike_of_isDirectory_eq (hsame : e'.isDirectory = e.isDirectory) :
    TakenAlike wrapper excluded e e' := by
  unfold TakenAlike takenAs
  rw [h.name.relativeName?_eq, hsame]

/-- A directory whose last slash is lost is taken alike only if it is left out anyway. -/
theorem takenAlike_iff :
    TakenAlike wrapper excluded e e' ↔
      (e.isDirectory = true → e'.isDirectory = true) ∨
        takenAs wrapper excluded e = none ∧ takenAs wrapper excluded e' = none := by
  constructor
  · intro halike
    cases htaken : takenAs wrapper excluded e with
    | none => exact .inr ⟨rfl, halike.trans htaken⟩
    | some taken =>
        have hkind := (takenAs_eq_some_iff.1 htaken).2.1
        have hkind' := (takenAs_eq_some_iff.1 (halike.trans htaken)).2.1
        exact .inl fun hdirectory => hkind'.trans (hkind.symm.trans hdirectory)
  · rintro (hkept | ⟨hnone, hnone'⟩)
    · exact takenAlike_of_isDirectory_eq h
        (Bool.eq_iff_iff.2 ⟨h.isDirectory, hkept⟩)
    · exact hnone'.trans hnone.symm

/-- What is taken for a file stays one. -/
theorem kindTaken_file (hfile : kindTaken wrapper excluded e = some false) :
    kindTaken wrapper excluded e' = some false := by
  have hkind := isDirectory_of_kindTaken hfile
  have hkind' : e'.isDirectory = false := by
    cases hdirectory : e'.isDirectory with
    | false => rfl
    | true => exact (h.isDirectory hdirectory).symm.trans hkind
  rw [kindTaken, takenAlike_of_isDirectory_eq h (hkind'.trans hkind.symm)]
  exact hfile

/-- What is taken for a directory was one. -/
theorem kindTaken_directory (hdirectory : kindTaken wrapper excluded e' = some true) :
    kindTaken wrapper excluded e = some true := by
  have hkind' := isDirectory_of_kindTaken hdirectory
  have hkind := h.isDirectory hkind'
  rw [kindTaken, ← takenAlike_of_isDirectory_eq h (hkind'.trans hkind.symm)]
  exact hdirectory

/-- Entries are taken alike if they are taken as things of the same kinds. -/
theorem takenAlike_of_kinds
    (hkinds : ∀ kind, kindTaken wrapper excluded e = some kind ↔
      kindTaken wrapper excluded e' = some kind) :
    TakenAlike wrapper excluded e e' := by
  have hsame : kindTaken wrapper excluded e' = kindTaken wrapper excluded e :=
    Option.ext fun kind => (hkinds kind).symm
  cases hkind : kindTaken wrapper excluded e with
  | some kind =>
      have hdirectory := isDirectory_of_kindTaken hkind
      have hdirectory' := isDirectory_of_kindTaken (hsame.trans hkind)
      exact takenAlike_of_isDirectory_eq h (hdirectory'.trans hdirectory.symm)
  | none =>
      have hnone : takenAs wrapper excluded e = none := Option.map_eq_none_iff.1 hkind
      have hnone' : takenAs wrapper excluded e' = none :=
        Option.map_eq_none_iff.1 (hsame.trans hkind)
      exact hnone'.trans hnone.symm

end Taken

/-! ## Counting -/

section Counting

variable {α β : Type} {related : α → β → Prop} {p : α → Bool} {q : β → Bool}
  (himp : ∀ a b, related a b → p a = true → q b = true)

include himp

theorem countP_le_of_forall₂ {items : List α} {items' : List β}
    (h : List.Forall₂ related items items') : items.countP p ≤ items'.countP q := by
  induction h with
  | nil => exact Nat.le_refl 0
  | @cons a b _ _ hab _ ih =>
      cases ha : p a with
      | true =>
          rw [List.countP_cons_of_pos ha, List.countP_cons_of_pos (himp a b hab ha)]
          exact Nat.succ_le_succ ih
      | false =>
          rw [List.countP_cons_of_neg (by simp [ha]), List.countP_cons]
          exact Nat.le_add_right_of_le ih

/-- What holds on the right wherever it holds on the left, and as often, holds at the same places. -/
theorem forall₂_eq_of_countP {items : List α} {items' : List β}
    (h : List.Forall₂ related items items') (hcount : items'.countP q = items.countP p) :
    List.Forall₂ (fun a b => p a = q b) items items' := by
  induction h with
  | nil => exact .nil
  | @cons a b items items' hab hrest ih =>
      cases ha : p a with
      | true =>
          have hb := himp a b hab ha
          rw [List.countP_cons_of_pos ha, List.countP_cons_of_pos hb] at hcount
          exact .cons (ha.trans hb.symm) (ih (Nat.succ.inj hcount))
      | false =>
          rw [List.countP_cons_of_neg (p := p) (by simp [ha])] at hcount
          cases hb : q b with
          | true =>
              -- one more on the right is not made up for in the rest
              have hle := countP_le_of_forall₂ himp hrest
              rw [List.countP_cons_of_pos hb] at hcount
              omega
          | false =>
              rw [List.countP_cons_of_neg (p := q) (by simp [hb])] at hcount
              exact .cons (ha.trans hb.symm) (ih hcount)

end Counting

/-- A list of steps that all succeed gives as many results. -/
theorem Extracting.length_of_run_mapM {α β : Type} {f : α → Extracting β} {items : List α}
    {d d' : Disk} {results : List β} (h : (items.mapM f).run.run d = (.ok results, d')) :
    results.length = items.length := by
  induction items generalizing d results with
  | nil =>
      cases h
      rfl
  | cons a rest ih =>
      rw [List.mapM_cons] at h
      obtain ⟨b, d₁, -, hlater⟩ := run_bind_eq_ok_iff.1 h
      obtain ⟨bs, d₂, hrest, hpure⟩ := run_bind_eq_ok_iff.1 hlater
      cases hpure
      rw [List.length_cons, List.length_cons, ih hrest]

/-- As many files are told as are wanted. -/
theorem length_of_run_extractAll {d d' : Disk} {path : String} {wanted : List Wanted}
    {files : List (String × String)} (h : (extractAll path wanted).run.run d = (.ok files, d')) :
    files.length = wanted.countP fun w => w.entry.isDirectory == false := by
  rw [extractAll_eq_layOut] at h
  obtain ⟨root, d₁, -, hwritten⟩ := Extracting.run_bind_eq_ok_iff.1 h
  rw [Extracting.length_of_run_mapM hwritten, filesOf, ← List.countP_eq_length_filter]
  simp only [beq_false]

/-- What an extraction tells gives away how many files and how many directories were wanted. -/
theorem counts_of_extractFrom {d : Disk} {entries : List Archive.Entry} {path : String}
    {excluded : List String} {result : Extraction}
    (h : (extractFrom d (.ok entries) path excluded).value.2 = .ok result) :
    (wantedIn excluded entries).countP (fun w => w.entry.isDirectory == false) =
        result.written.length ∧
      (wantedIn excluded entries).countP (fun w => w.entry.isDirectory == true) +
          result.written.length + result.skipped = entries.length := by
  obtain ⟨files, hok, rfl⟩ := exists_files_of_extractFrom h
  have hfiles := length_of_run_extractAll (Prod.ext hok rfl)
  have hwritten : (Extraction.ofFiles path (entries.length - (wantedIn excluded entries).length)
      files).written.length = files.length := List.length_map _
  have hskipped : (Extraction.ofFiles path (entries.length - (wantedIn excluded entries).length)
      files).skipped = entries.length - (wantedIn excluded entries).length := rfl
  have hfew : (wantedIn excluded entries).length ≤ entries.length := List.length_filterMap_le _ _
  have hkinds := List.length_eq_countP_add_countP (fun w : Wanted => w.entry.isDirectory == true)
    (l := wantedIn excluded entries)
  have hothers : (wantedIn excluded entries).countP (fun w => !(w.entry.isDirectory == true)) =
      (wantedIn excluded entries).countP fun w => w.entry.isDirectory == false := by
    simp only [beq_true, beq_false]
  simp only [Bool.not_eq_true, Bool.decide_eq_false] at hkinds
  omega

/-! ## Both archives -/

section Archives

variable {entries entries' : List Archive.Entry} (h : List.Forall₂ IsRespelled entries entries')

include h

/-- Where all entries are taken alike, the same ones are wanted. -/
theorem forall₂_wantedOf_respelled {wrapper : String} {excluded : List String}
    (halike : List.Forall₂ (TakenAlike wrapper excluded) entries entries') :
    List.Forall₂ (Twins fun e e' => (e, e') ∈ entries.zip entries')
      (wantedOf wrapper excluded entries) (wantedOf wrapper excluded entries') := by
  have hpairs : List.Forall₂ (fun e e' => (e, e') ∈ entries.zip entries' ∧ IsRespelled e e' ∧
      TakenAlike wrapper excluded e e') entries entries' :=
    List.forall₂_iff_zip.2 ⟨h.length_eq, fun hpair =>
      ⟨hpair, List.forall₂_zip h hpair, List.forall₂_zip halike hpair⟩⟩
  rw [wantedOf_eq, wantedOf_eq]
  apply List.rel_filterMap _ hpairs
  rintro e e' ⟨hpair, he, htaken⟩
  have htaken : takenAs wrapper excluded e' = takenAs wrapper excluded e := htaken
  dsimp only
  rw [htaken]
  -- what one entry is taken as, the other one is taken as
  cases hname : takenAs wrapper excluded e with
  | none => exact Option.Rel.none
  | some taken =>
      have hdirectory := (takenAs_eq_some_iff.1 hname).2.1
      have hdirectory' := (takenAs_eq_some_iff.1 (htaken.trans hname)).2.1
      exact Option.Rel.some ⟨rfl, hdirectory'.trans hdirectory.symm, hpair, he.data⟩

/-- Where as many files and as many directories are wanted, all entries are taken alike. -/
theorem takenAlike_of_countP {wrapper : String} {excluded : List String}
    (hcount : ∀ kind,
      (wantedOf wrapper excluded entries').countP (fun w => w.entry.isDirectory == kind) =
        (wantedOf wrapper excluded entries).countP fun w => w.entry.isDirectory == kind) :
    List.Forall₂ (TakenAlike wrapper excluded) entries entries' := by
  have hkinds : ∀ kind,
      entries'.countP (fun e => kindTaken wrapper excluded e == some kind) =
        entries.countP fun e => kindTaken wrapper excluded e == some kind := by
    intro kind
    rw [← countP_wantedOf, ← countP_wantedOf, hcount kind]
  have hfiles := forall₂_eq_of_countP (fun e e' he hfile => by
    simpa using kindTaken_file he (by simpa using hfile)) h (hkinds false)
  -- no directory is won, so these are compared the other way
  have hdirectories := (forall₂_eq_of_countP (fun e' e he hdirectory => by
    simpa using kindTaken_directory he (by simpa using hdirectory)) h.flip (hkinds true).symm).flip
  refine List.forall₂_iff_zip.2 ⟨h.length_eq, fun {e e'} hpair => ?_⟩
  have hfile := List.forall₂_zip hfiles hpair
  have hdirectory := List.forall₂_zip hdirectories hpair
  refine takenAlike_of_kinds (List.forall₂_zip h hpair) fun kind => ?_
  cases kind with
  | false => exact (beq_iff_eq.symm.trans (Bool.eq_iff_iff.1 hfile)).trans beq_iff_eq
  | true => exact (beq_iff_eq.symm.trans (Bool.eq_iff_iff.1 hdirectory.symm)).trans beq_iff_eq

/--
An archive and the same one with backslashes for some slashes in the names of its entries. If every
directory keeps its last slash, all entries are taken alike. If they are, the disk is the same after
both extractions, and both give the same or fail in the same way at the same entry. When the archive
with slashes is extracted without an error, the other gives the same result only then.
-/
theorem extractFrom_respelled (d : Disk) (path : String) (excluded : List String) :
    let wrapper := wrapperOf (entries.map (·.name))
    let alike := List.Forall₂ (TakenAlike wrapper excluded) entries entries'
    let plain := (extractFrom d (.ok entries) path excluded).value
    let other := (extractFrom d (.ok entries') path excluded).value
    (List.Forall₂ (fun e e' => e.isDirectory = true → e'.isDirectory = true) entries entries' →
        alike) ∧
      (alike →
        other.1 = plain.1 ∧
          EndsAlike (fun e e' => (e, e') ∈ entries.zip entries') plain.2 other.2) ∧
      ∀ result, plain.2 = .ok result → (other.2 = .ok result ↔ alike) := by
  have hsame : ∀ halike : List.Forall₂ (TakenAlike (wrapperOf (entries.map (·.name))) excluded)
      entries entries',
      (extractFrom d (.ok entries') path excluded).value.1 =
          (extractFrom d (.ok entries) path excluded).value.1 ∧
        EndsAlike (fun e e' => (e, e') ∈ entries.zip entries')
          (extractFrom d (.ok entries) path excluded).value.2
          (extractFrom d (.ok entries') path excluded).value.2 := by
    intro halike
    have htwins := forall₂_wantedOf_respelled h halike
    rw [value_extractFrom_ok, value_extractFrom_ok, wantedIn, wantedIn, wrapperOf_respelled h,
      htwins.length_eq, h.length_eq]
    rcases lockstep_extractAll path htwins d with ⟨hdisk, hend⟩
    exact ⟨hdisk, hend.map _⟩
  refine ⟨?_, hsame, fun result hplain => ⟨fun hother => ?_, fun halike => ?_⟩⟩
  · exact List.Forall₂.mp (fun e e' he hkept => (takenAlike_iff he).2 (.inl hkept)) h
  · -- equal results count equally many entries of each kind, and no kind can gain any
    have hplain := counts_of_extractFrom hplain
    have hother := counts_of_extractFrom hother
    have hlength := h.length_eq
    rw [wantedIn] at hplain
    rw [wantedIn, wrapperOf_respelled h] at hother
    refine takenAlike_of_countP h fun kind => ?_
    cases kind with
    | false => exact hother.1.trans hplain.1.symm
    | true => omega
  · have hend := (hsame halike).2
    rw [hplain] at hend
    generalize (extractFrom d (.ok entries') path excluded).value.2 = outcome at hend
    cases hend
    rfl

end Archives

/-- A project of a directory and a file. -/
def slashedProject : List Archive.Entry :=
  [⟨"src/b/", fun _ => .ok []⟩, ⟨"src/c", fun _ => .ok [1]⟩]

/-- The same project with backslashes within its names. -/
def backslashedProject : List Archive.Entry :=
  [⟨"src\\b/", fun _ => .ok []⟩, ⟨"src\\c", fun _ => .ok [1]⟩]

/-- The same project with nothing but backslashes. -/
def slashlessProject : List Archive.Entry :=
  [⟨"src\\b\\", fun _ => .ok []⟩, ⟨"src\\c", fun _ => .ok [1]⟩]

theorem extractFrom_respelled_slashlessProject :
    let plain := (extractFrom ⟨[], []⟩ (.ok slashedProject) "/p" []).value
    let within := (extractFrom ⟨[], []⟩ (.ok backslashedProject) "/p" []).value
    let throughout := (extractFrom ⟨[], []⟩ (.ok slashlessProject) "/p" []).value
    ∃ result, plain.2 = .ok result ∧ within.2 = .ok result ∧ within.1 = plain.1 ∧
      throughout.2 ≠ .ok result := by
  have hwithin : List.Forall₂ IsRespelled slashedProject backslashedProject :=
    .cons ⟨by decide, rfl⟩ (.cons ⟨by decide, rfl⟩ .nil)
  have hthroughout : List.Forall₂ IsRespelled slashedProject slashlessProject :=
    .cons ⟨by decide, rfl⟩ (.cons ⟨by decide, rfl⟩ .nil)
  have hok : (extractFrom ⟨[], []⟩ (.ok slashedProject) "/p" []).value.2.isOk = true := by
    decide +kernel
  dsimp only
  cases hplain : (extractFrom ⟨[], []⟩ (.ok slashedProject) "/p" []).value.2 with
  | error e =>
      rw [hplain] at hok
      cases hok
  | ok result =>
      obtain ⟨hkept, hsame, hiff⟩ := extractFrom_respelled hwithin ⟨[], []⟩ "/p" []
      have halike := hkept (by decide)
      -- the directory is a file in the last archive
      obtain ⟨-, -, hlost⟩ := extractFrom_respelled hthroughout ⟨[], []⟩ "/p" []
      refine ⟨result, rfl, (hiff result hplain).2 halike, (hsame halike).1, fun hthrough => ?_⟩
      exact absurd ((hlost result hplain).1 hthrough) (by decide +kernel)

end RoleAudit
