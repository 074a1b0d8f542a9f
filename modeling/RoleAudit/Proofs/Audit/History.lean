import RoleAudit.Proofs.Audit.Independence
import RoleAudit.Proofs.Extraction.Containment
import RoleAudit.Proofs.Extraction.Renewal

/-!
# Audits one after the other

Audits may share their place of extraction. Each removes what the ones before it have left there,
whether these have succeeded or failed on the way, and so its outcome is the same as if there had
been no other one:

- `Call`, `runEach`: audits that are run one after the other on one disk;
- `Call.disk_runOn`: a call leaves the disk as it was, or as an extraction leaves it;
- `Call.outcome_congr`: the outcome of a call depends on the extractions to its place only;
- `runEach_independent`: what this says of all calls together.
-/

namespace RoleAudit

/-- One call of an audit. -/
structure Call where
  audit : Audit
  document : Policy.Document
  archive : Octets

/-- The disk after a call, and its outcome. -/
def Call.runOn (c : Call) (d : Disk) : Disk × Except AuditError Run :=
  (c.audit.run d c.document c.archive).value

/-- The disk after calls that each find what the one before has left, and their outcomes. -/
def runEach : List Call → Disk → Disk × List (Except AuditError Run)
  | [], d => (d, [])
  | c :: rest, d =>
    let (d, outcome) := c.runOn d
    let (d, outcomes) := runEach rest d
    (d, outcome :: outcomes)

/-! ## One call -/

/-- An audit is not prepared whatever is on the disk, or what it extracts is told by its archive. -/
theorem Audit.prepared_cases (a : Audit) (document : Policy.Document) (archive : Octets) :
    (∃ e, ∀ d, a.prepared d document archive = (d, .error e)) ∨
      ∃ rules excluded entries, ∀ d, a.prepared d document archive =
        let extracted := (extractFrom d (.ok entries) a.place excluded).value
        (extracted.1, (extracted.2.mapError .extraction).map fun e => (rules, e)) := by
  unfold Audit.prepared
  cases a.readers.policy document with
  | error e => exact Or.inl ⟨.policy e, fun d => rfl⟩
  | ok root =>
      cases a.exclusions with
      | error e => exact Or.inl ⟨.exclusions e, fun d => rfl⟩
      | ok excluded =>
          dsimp only
          cases a.readers.archive archive with
          | error fault => exact Or.inl ⟨.extraction (.unreadable fault), fun d => rfl⟩
          | ok entries => exact Or.inr ⟨_, excluded, entries, fun d => rfl⟩

namespace Call

/-- A call fails before it changes the disk, or it leaves what an extraction leaves. -/
theorem disk_runOn (c : Call) (d : Disk) :
    (c.runOn d).1 = d ∨
      ∃ wanted, (c.runOn d).1 = ((extractAll c.audit.place wanted).run.run d).2 := by
  unfold runOn
  rw [value_run_eq_prepared]
  rcases c.audit.prepared_cases c.document c.archive with
    ⟨e, hfails⟩ | ⟨rules, excluded, entries, hextracts⟩
  · left
    rw [hfails]
  · right
    refine ⟨wantedOf (wrapperOf (entries.map (·.name))) excluded entries, ?_⟩
    rw [hextracts]
    exact (value_extractFrom d entries c.audit.place excluded).1

/-- Where the same is extracted on two disks, a call has the same outcome. -/
theorem outcome_congr (c : Call) {d d' : Disk}
    (h : ∀ wanted, (extractAll c.audit.place wanted).run.run d =
      (extractAll c.audit.place wanted).run.run d') :
    (c.runOn d).2 = (c.runOn d').2 := by
  unfold runOn
  rw [value_run_eq_prepared, value_run_eq_prepared]
  -- the call fails before it looks at the disk, or it goes on with what it has extracted
  rcases c.audit.prepared_cases c.document c.archive with
    ⟨e, hfails⟩ | ⟨rules, excluded, entries, hextracts⟩
  · rw [hfails, hfails]
    simp only [Except.map]
  · have hsame : extractFrom d (.ok entries) c.audit.place excluded =
        extractFrom d' (.ok entries) c.audit.place excluded := by
      simp only [extractFrom, h]
    rw [hextracts, hextracts, hsame]

end Call

/-! ## All calls -/

section Calls

variable {base : Disk} {place : List String} {calls : List Call}

/-- No call leaves a file at the place of extraction. -/
theorem ne_file_runEach (hbase : base.IsPlaced)
    (hcalls : ∀ c ∈ calls, base.namesAt c.audit.place = place) {d : Disk}
    (hd : (withoutFile base place).holds d) : (withoutFile base place).holds (runEach calls d).1 := by
  induction calls generalizing d with
  | nil => exact hd
  | cons c rest ih =>
      have hleft : (withoutFile base place).holds (c.runOn d).1 := by
        rcases c.disk_runOn d with hstays | ⟨wanted, hextracts⟩
        · rw [hstays]
          exact hd
        · have hplace := hcalls c List.mem_cons_self
          rw [hextracts]
          exact (withoutFile_extractAll hbase hplace wanted d hd).1
      exact ih (fun other hother => hcalls other (List.mem_cons_of_mem c hother)) hleft

/-- On a disk that extractions leave, every call has the outcome that it has where nothing is. -/
theorem outcomes_runEach {paths : List String} (hbase : base.IsTree)
    (h : base.Shared place paths) (hcalls : ∀ c ∈ calls, c.audit.place ∈ paths) {d : Disk}
    (hd : Renewable base place paths d) :
    (runEach calls d).2 = calls.map fun c => (c.runOn (base.removeTree place)).2 := by
  -- the invariant is that the disk is one that extractions to the place leave
  induction calls generalizing d with
  | nil => rfl
  | cons c rest ih =>
      have hplace := hcalls c List.mem_cons_self
      have hfresh := renewable_removeTree base place paths
      have hfirst : (c.runOn d).2 = (c.runOn (base.removeTree place)).2 := by
        apply c.outcome_congr
        intro wanted
        rw [h.run_extractAll hbase hd hplace, h.run_extractAll hbase hfresh hplace]
      have hleft : Renewable base place paths (c.runOn d).1 := by
        rcases c.disk_runOn d with hstays | ⟨wanted, hextracts⟩
        · rw [hstays]
          exact hd
        · rw [hextracts, h.run_extractAll hbase hd hplace]
          exact h.renewable_fillPlace hbase hplace wanted
      have hlater := ih (fun other hother => hcalls other (List.mem_cons_of_mem c hother)) hleft
      rw [List.map_cons, ← hfirst, ← hlater]
      rfl

end Calls

/--
However policies and archives are read, calls of audits that share their place, at which there is a
directory or nothing at first, leave no file there. If their paths lead to the place and not through
it, by the same directories, every call has the outcome that it has where nothing is at the place,
whatever the calls before it have read, extracted or failed at.
-/
theorem runEach_independent (d : Disk) (hd : d.IsTree) (place : List String)
    (hfile : ∀ content, d.at? place ≠ some (.file content)) (calls : List Call)
    (hcalls : ∀ c ∈ calls, d.namesAt c.audit.place = place) :
    (∀ content, (runEach calls d).1.at? place ≠ some (.file content)) ∧
      (d.Shared place (calls.map fun c => c.audit.place) →
        (runEach calls d).2 = calls.map fun c => (c.runOn (d.removeTree place)).2) := by
  constructor
  · exact (ne_file_runEach hd.placed hcalls ⟨rfl, hfile⟩).2
  · intro hshared
    have hpaths : ∀ c ∈ calls, c.audit.place ∈ calls.map fun c => c.audit.place :=
      fun c hc => List.mem_map_of_mem hc
    exact outcomes_runEach hd hshared hpaths (hshared.renewable_self hd hfile)

/-- A disk with something left at a place. -/
def diskWithLeftovers : Disk :=
  ⟨[(["x"], .directory), (["x", "old"], .file [1])], []⟩

/-- Calls of which some fail: the checksum of an entry is wrong, or the policy is empty. -/
def mixedCalls : List Call :=
  [⟨plainAudit, .text "<Policys/>", oneController⟩,
    ⟨plainAudit, .text "<Policys/>", oneController.set 65 1⟩,
    ⟨plainAudit, .text "", oneController⟩,
    ⟨plainAudit, .text "<Policys/>", oneController⟩]

theorem runEach_independent_mixedCalls :
    (∀ content, (runEach mixedCalls diskWithLeftovers).1.at? ["x"] ≠ some (.file content)) ∧
      (runEach mixedCalls diskWithLeftovers).2 =
        mixedCalls.map fun c => (c.runOn (diskWithLeftovers.removeTree ["x"])).2 := by
  have htree : diskWithLeftovers.IsTree := by
    refine ⟨?_, rfl, ?_⟩
    · unfold Disk.IsPlaced
      decide
    · decide +kernel
  have hnames : diskWithLeftovers.namesAt "/x" = ["x"] := by decide +kernel
  have hplaces : ∀ c ∈ mixedCalls, c.audit.place = "/x" := by simp [mixedCalls, plainAudit]
  have hfile : ∀ content, diskWithLeftovers.at? ["x"] ≠ some (.file content) := by
    simp [diskWithLeftovers, Disk.at?]
  have hdirect : diskWithLeftovers.IsDirect "/x" := by decide +kernel
  have hshared : diskWithLeftovers.Shared ["x"] (mixedCalls.map fun c => c.audit.place) := by
    rw [← hnames]
    apply hdirect.shared fun _ => by decide +kernel
    simpa [List.forall_mem_map] using hplaces
  rcases runEach_independent diskWithLeftovers htree ["x"] hfile mixedCalls
    fun c hc => by rw [hplaces c hc, hnames] with ⟨hnofile, houtcomes⟩
  exact ⟨hnofile, houtcomes hshared⟩

end RoleAudit
