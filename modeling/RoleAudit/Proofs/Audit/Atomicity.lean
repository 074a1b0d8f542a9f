import RoleAudit.Proofs.Audit.Failures
import RoleAudit.Proofs.Audit.History
import RoleAudit.Proofs.Extraction.Exactness

/-!
# What a failed audit leaves

An audit reads its policy and opens its archive before it touches the disk. Then it removes what is at
the place of extraction, and only after that it writes:

- `run_of_unreadable`, `run_of_unopened`: what fails early leaves the disk as it was;
- `EndsAs`: an audit leaves the disk as its extraction does, and fails if that fails;
- `endsAs_extractAll`: so does every audit that has read its policy and opened its archive;
- `Extracting.run_extractAll_of_directory`: an old directory is gone before the first entry is
  written, or no entry is;
- `run_leaves_or_replaces`: what this says of an audit.

An old directory is told by the path as it is written. If that leads nowhere nothing is removed, even
if there is an old directory where entries are written in the end.
-/

namespace RoleAudit

/-! ## Failing early -/

section Early

variable {a : Audit} {d : Disk} {document : Policy.Document} {archive : Octets}

theorem run_of_unreadable {e : Xml.Error} (hroot : a.readers.policy document = .error e) :
    (a.run d document archive).value = (d, .error (.policy e)) := by
  rw [value_run_eq_prepared]
  unfold Audit.prepared
  rw [hroot]
  rfl

/-- Without a policy, excluded directories and an open archive nothing is extracted. -/
theorem run_of_unopened
    (h : (∃ e, a.readers.policy document = .error e) ∨ (∃ e, a.exclusions = .error e) ∨
      ∃ fault, a.readers.archive archive = .error fault) :
    ∃ e, (a.run d document archive).value = (d, .error e) := by
  cases hroot : a.readers.policy document with
  | error e => exact ⟨.policy e, run_of_unreadable hroot⟩
  | ok root =>
      rw [value_run_eq_prepared]
      unfold Audit.prepared
      rw [hroot]
      cases hexcluded : a.exclusions with
      | error e => exact ⟨.exclusions e, rfl⟩
      | ok excluded =>
          simp only [hroot, hexcluded, reduceCtorEq, exists_false, false_or] at h
          obtain ⟨fault, hfault⟩ := h
          rw [hfault]
          exact ⟨.extraction (.unreadable fault), rfl⟩

end Early

/-! ## Ending as the extraction does -/

/-- An audit leaves the disk that steps leave, and fails if and only if they do. -/
structure EndsAs {α : Type} (steps : Except ExtractionError α × Disk)
    (run : Disk × Except AuditError Run) : Prop where
  disk : run.1 = steps.2
  fails : ∀ e, steps.1 = .error e → run.2 = .error (.extraction e)
  succeeds : ∀ result, steps.1 = .ok result → ∃ r, run.2 = .ok r

/-- An audit that has read its policy and opened its archive ends as its extraction does. -/
theorem endsAs_extractAll {a : Audit} {d : Disk} {document : Policy.Document} {archive : Octets}
    {root : Xml.Element} {excluded : List String} {entries : List Archive.Entry}
    (hroot : a.readers.policy document = .ok root) (hexcluded : a.exclusions = .ok excluded)
    (hopened : a.readers.archive archive = .ok entries) :
    EndsAs ((extractAll a.place (wantedIn excluded entries)).run.run d)
      (a.run d document archive).value := by
  rw [value_run_eq_prepared]
  unfold Audit.prepared
  rw [hroot, hexcluded, hopened]
  dsimp only
  rw [value_extractFrom_ok]
  -- after an extraction nothing fails, and nothing is written
  rcases (extractAll a.place (wantedIn excluded entries)).run.run d with ⟨e | files, after⟩
  · refine ⟨rfl, ?_, ?_⟩
    · rintro _ ⟨⟩
      rfl
    · rintro _ ⟨⟩
  · refine ⟨rfl, ?_, ?_⟩
    · rintro _ ⟨⟩
    · rintro _ ⟨⟩
      exact ⟨_, rfl⟩

/-! ## Removing what is there -/

namespace Extracting

variable {path : String} {wanted : List Wanted} {d : Disk}

theorem run_extractAll_of_file {names : List String} {content : Octets}
    (hfind : d.find path = .ok (names, .file content)) :
    (extractAll path wanted).run.run d = (.error (.unwritable ⟨.notDirectory, path⟩), d) := by
  rw [extractAll_eq, run_bind, run_clearPlace, hfind]

theorem run_extractAll_of_nothing {cause : DiskCause} (hfind : d.find path = .error cause) :
    (extractAll path wanted).run.run d = (fillPlace path wanted).run.run d := by
  rw [extractAll_eq, run_bind, run_clearPlace, hfind]

/-- A directory is removed before the place is filled, or it stays empty and nothing is written. -/
theorem run_extractAll_of_directory {names : List String}
    (hfind : d.find path = .ok (names, .directory)) :
    (extractAll path wanted).run.run d = (fillPlace path wanted).run.run (d.removeTree names) ∨
      ∃ cause, (extractAll path wanted).run.run d =
        (.error (.unremovable cause path), d.emptied names) := by
  rw [extractAll_eq, run_bind, run_clearPlace, hfind]
  dsimp only
  rcases d.removeDirectory_cases path names with ⟨cause, hstays⟩ | ⟨-, -, hremoved⟩
  · rw [hstays]
    exact Or.inr ⟨cause, rfl⟩
  · rw [hremoved, Disk.removeTree_emptied]
    exact Or.inl rfl

/-- Through a path that does not lead through its own place the directory is always removed. -/
theorem run_extractAll_of_isDirect (hd : d.IsPlaced) (hdirect : d.IsDirect path)
    {names : List String} (hfind : d.find path = .ok (names, .directory)) :
    (extractAll path wanted).run.run d = (fillPlace path wanted).run.run (d.removeTree names) := by
  have hnames := Disk.namesAt_of_find hd hfind
  subst hnames
  rw [extractAll_eq, run_bind, run_clearPlace_of_isDirect hd hdirect (Or.inr hfind)]

end Extracting

/-! ## The whole audit -/

/--
However policies and archives are read: an audit whose policy cannot be read or whose archive cannot
be opened fails and leaves the disk as it was. Else it depends on what its path leads to. A file
there is left as it was, and the audit fails. A directory is gone with all below it before anything
is written, and the rest of the disk is what it was; or the audit fails when it is empty and nothing
has been written, which does not happen if the path is direct. Where the path leads nowhere,
everything is still there when the first entry is written.
-/
theorem run_leaves_or_replaces (a : Audit) (d : Disk) (document : Policy.Document)
    (archive : Octets) :
    let run := (a.run d document archive).value
    (∀ e, a.readers.policy document = .error e → run = (d, .error (.policy e))) ∧
    (∀ fault, a.readers.archive archive = .error fault → ∃ e, run = (d, .error e)) ∧
    (∀ cause, a.exclusions = .error cause → ∃ e, run = (d, .error e)) ∧
    ∀ root entries excluded, a.readers.policy document = .ok root →
      a.readers.archive archive = .ok entries → a.exclusions = .ok excluded →
      let filled := (fillPlace a.place (wantedIn excluded entries)).run.run
      (∀ names content, d.find a.place = .ok (names, .file content) →
        run = (d, .error (.extraction (.unwritable ⟨.notDirectory, a.place⟩)))) ∧
      (∀ names, d.find a.place = .ok (names, .directory) →
        (∃ cleared : Disk, cleared.Lacks names ∧
          (∀ other, ¬ names <+: other → cleared.at? other = d.at? other) ∧
          EndsAs (filled cleared) run) ∨
        ((∃ cause, run = (d.emptied names, .error (.extraction (.unremovable cause a.place)))) ∧
          ¬ (d.IsPlaced ∧ d.IsDirect a.place))) ∧
      ∀ cause, d.find a.place = .error cause → EndsAs (filled d) run ∧
        (d.IsPlaced → ∀ names thing, d.at? names = some thing →
          (d.replacedAt a.place).at? names = some thing) := by
  refine ⟨fun e => run_of_unreadable, ?_, ?_, ?_⟩
  · exact fun fault hfault => run_of_unopened (Or.inr (Or.inr ⟨fault, hfault⟩))
  · exact fun cause hexcluded => run_of_unopened (Or.inr (Or.inl ⟨cause, hexcluded⟩))
  · intro root entries excluded hroot hopened hexcluded filled
    have hends : EndsAs ((extractAll a.place (wantedIn excluded entries)).run.run d)
        (a.run d document archive).value := endsAs_extractAll hroot hexcluded hopened
    refine ⟨?_, ?_, ?_⟩
    · intro names content hfind
      -- a file at the place
      rw [Extracting.run_extractAll_of_file hfind] at hends
      exact Prod.ext hends.disk (hends.fails _ rfl)
    · intro names hfind
      -- a directory: a direct path removes it, and another one may remove all but itself
      have hcleared : ∀ other, ¬ names <+: other → (d.removeTree names).at? other = d.at? other :=
        fun other hout => d.at?_removeTree hout
      by_cases hdirect : d.IsPlaced ∧ d.IsDirect a.place
      · rw [Extracting.run_extractAll_of_isDirect hdirect.1 hdirect.2 hfind] at hends
        exact Or.inl ⟨_, d.lacks_removeTree names, hcleared, hends⟩
      · rcases Extracting.run_extractAll_of_directory hfind with hreplaced | ⟨cause, hstays⟩
        · rw [hreplaced] at hends
          exact Or.inl ⟨_, d.lacks_removeTree names, hcleared, hends⟩
        · rw [hstays] at hends
          exact Or.inr ⟨⟨cause, Prod.ext hends.disk (hends.fails _ rfl)⟩, hdirect⟩
    · intro cause hfind
      -- nothing that the path leads to
      rw [Extracting.run_extractAll_of_nothing hfind] at hends
      exact ⟨hends, fun hd names thing => at?_replacedAt_of_find_error hd hfind⟩

/-- An audit whose path goes through a directory that does not exist, and comes back. -/
def throughAudit : Audit :=
  { plainAudit with place := "/gone/../x" }

theorem run_leaves_or_replaces_diskWithLeftovers :
    (∃ e, (plainAudit.run diskWithLeftovers (.text "") oneController).value =
        (diskWithLeftovers, .error e)) ∧
      (∃ e, (plainAudit.run diskWithLeftovers (.text "<Policys/>") []).value =
        (diskWithLeftovers, .error e)) ∧
      ∃ entries, Archive.opened oneController = .ok entries ∧
        (∃ cleared : Disk, cleared.Lacks ["x"] ∧
          EndsAs ((fillPlace "/x" (wantedIn [] entries)).run.run cleared)
            (plainAudit.run diskWithLeftovers (.text "<Policys/>") oneController).value) ∧
        EndsAs ((fillPlace "/gone/../x" (wantedIn [] entries)).run.run diskWithLeftovers)
            (throughAudit.run diskWithLeftovers (.text "<Policys/>") oneController).value ∧
        (diskWithLeftovers.replacedAt "/gone/../x").at? ["x", "old"] = some (.file [1]) := by
  have hplaced : diskWithLeftovers.IsPlaced := by
    unfold Disk.IsPlaced
    decide
  have hunreadable : (plainAudit.readers.policy (.text "")).isOk = false := by decide +kernel
  have hunopened : (plainAudit.readers.archive []).isOk = false := by decide +kernel
  obtain ⟨root, hroot⟩ : ∃ root, plainAudit.readers.policy (.text "<Policys/>") = .ok root :=
    exists_eq_ok_of_isOk (by decide +kernel)
  obtain ⟨entries, hopened⟩ : ∃ entries, plainAudit.readers.archive oneController = .ok entries :=
    exists_eq_ok_of_isOk (by decide +kernel)
  refine ⟨?_, ?_, entries, hopened, ?_, ?_⟩
  · cases hempty : plainAudit.readers.policy (.text "") with
    | error e => exact ⟨_, (run_leaves_or_replaces plainAudit diskWithLeftovers _ _).1 e hempty⟩
    | ok root =>
        rw [hempty] at hunreadable
        cases hunreadable
  · cases hempty : plainAudit.readers.archive [] with
    | error fault =>
        exact (run_leaves_or_replaces plainAudit diskWithLeftovers _ _).2.1 fault hempty
    | ok entries =>
        rw [hempty] at hunopened
        cases hunopened
  · have hcases := (run_leaves_or_replaces plainAudit diskWithLeftovers _ _).2.2.2 root entries []
      hroot hopened rfl
    have hdirect : diskWithLeftovers.IsDirect "/x" := by decide +kernel
    rcases hcases.2.1 ["x"] (by decide +kernel) with ⟨cleared, hlacks, -, hends⟩ | ⟨-, hnot⟩
    · exact ⟨cleared, hlacks, hends⟩
    · exact absurd ⟨hplaced, hdirect⟩ hnot
  · have hcases := (run_leaves_or_replaces throughAudit diskWithLeftovers _ _).2.2.2 root entries []
      hroot hopened rfl
    obtain ⟨hends, hstays⟩ := hcases.2.2 .missing (by decide +kernel)
    exact ⟨hends, hstays hplaced ["x", "old"] (.file [1]) rfl⟩

end RoleAudit
