import RoleAudit.Command.Check
import RoleAudit.Proofs.Audit.Independence
import RoleAudit.Proofs.Extraction.Faults

/-!
# Failures

An audit that is handed something faulty says so, and the command answers with its message. Some
faults are not among those that an audit answers for: an encoding that cannot be used, damaged data
of some methods, and whatever an archive uses that is not supported. They pass through all layers.

- `Audit.Unhandled`: an audit is handed such a fault, and comes to it;
- `run_unanswered_iff_unhandled`: an audit fails without an answer for these faults, and else gives
  a run or an error that is answered;
- `CheckCommand.Prepares`: the arguments of the command make an audit and name its inputs;
- `CheckCommand.value_execute`: how the command ends after its audit has ended;
- `run_and_command_end`: what interrupts the command: these faults, and a report that cannot be
  written.
-/

namespace RoleAudit

open CheckCommand

/-! ## Faults that are not handled -/

/-- An audit is handed a fault that it has no answer to, and comes to it. -/
inductive Audit.Unhandled (a : Audit) (d : Disk) (document : Policy.Document) (archive : Octets)
    (excluded : List String) : AuditError → Prop
  | encoding {cause : Xml.Error} (hroot : a.readers.policy document = .error cause)
      (hcause : cause.isRefusal = false) : Unhandled a d document archive excluded (.policy cause)
  | archive {root : Xml.Element} {fault : Archive.Fault}
      (hroot : a.readers.policy document = .ok root)
      (hopened : a.readers.archive archive = .error fault) (hfault : fault.isBroken = false) :
      Unhandled a d document archive excluded (.extraction (.unreadable fault))
  | entry {root : Xml.Element} {entries : List Archive.Entry} {w : Wanted} {fault : Archive.Fault}
      (hroot : a.readers.policy document = .ok root)
      (hopened : a.readers.archive archive = .ok entries)
      (hcomes : ComesTo d a.place (wantedIn excluded entries) w)
      (hdata : w.entry.data () = .error fault) (hfault : fault.isRefusal = false) :
      Unhandled a d document archive excluded (.extraction (.brokenEntry fault))

/-- What an audit has no answer to is not answered by the command. -/
theorem Audit.Unhandled.isAnsweredFailure_eq {a : Audit} {d : Disk} {document : Policy.Document}
    {archive : Octets} {excluded : List String} {e : AuditError}
    (h : a.Unhandled d document archive excluded e) : isAnsweredFailure e = false := by
  cases h with
  | encoding hroot hcause => exact hcause
  | archive hroot hopened hfault =>
      simp [isAnsweredFailure, ExtractionError.unsupported?, hfault]
  | entry hroot hopened hcomes hdata hfault =>
      simp [isAnsweredFailure, ExtractionError.unsupported?, hfault]

/-- An open archive fails to extract without an answer for the data of an entry only. -/
theorem extractFrom_unanswered_iff {d : Disk} {entries : List Archive.Entry} {path : String}
    {excluded : List String} {e : ExtractionError} :
    ((extractFrom d (.ok entries) path excluded).value.2 = .error e ∧ e.unsupported?.isSome) ↔
      ∃ w fault, ComesTo d path (wantedIn excluded entries) w ∧
        w.entry.data () = .error fault ∧ fault.isRefusal = false ∧ e = .brokenEntry fault := by
  rw [← meets_extractAll_iff, Extracting.Meets, value_extractFrom_ok]
  refine and_congr_left fun _ => ?_
  cases ((extractAll path (wantedIn excluded entries)).run.run d).1 <;> simp [Except.map]

/-- An audit whose policy can be read fails where its extraction does. -/
theorem run_eq_error_iff_extract {a : Audit} {d : Disk} {document : Policy.Document}
    {archive : Octets} {excluded : List String} {root : Xml.Element} {e : AuditError}
    (hexcluded : a.exclusions = .ok excluded) (hroot : a.readers.policy document = .ok root) :
    (a.run d document archive).value.2 = .error e ↔
      ∃ cause, (extractFrom d (a.readers.archive archive) a.place excluded).value.2 =
          .error cause ∧
        e = .extraction cause := by
  rw [value_run_eq_prepared]
  unfold Audit.prepared
  rw [hroot, hexcluded]
  dsimp only
  rcases (extractFrom d (a.readers.archive archive) a.place excluded).value with
    ⟨d', cause | extraction⟩
  · simp [Except.mapError, Except.map, eq_comm]
  · simp [Except.mapError, Except.map]

section Unanswered

variable {a : Audit} {d : Disk} {document : Policy.Document} {archive : Octets}
  {excluded : List String} {e : AuditError}

/-- An audit of a document that cannot be read is answered for if the document is refused. -/
theorem run_unanswered_iff_of_unread {cause : Xml.Error}
    (hroot : a.readers.policy document = .error cause) :
    ((a.run d document archive).value.2 = .error e ∧ isAnsweredFailure e = false) ↔
      a.Unhandled d document archive excluded e := by
  have hrun : (a.run d document archive).value.2 = .error (.policy cause) := by
    rw [value_run_eq_prepared]
    unfold Audit.prepared
    rw [hroot]
    rfl
  constructor
  · rintro ⟨he, hanswer⟩
    cases hrun.symm.trans he
    exact .encoding hroot hanswer
  · intro h
    refine ⟨?_, h.isAnsweredFailure_eq⟩
    cases h with
    | encoding hsame _ =>
        cases hroot.symm.trans hsame
        exact hrun
    | archive hok => cases hroot.symm.trans hok
    | entry hok => cases hroot.symm.trans hok

/-- An archive that cannot be opened is answered for if it is broken. -/
theorem run_unanswered_iff_of_unopened {root : Xml.Element} {fault : Archive.Fault}
    (hexcluded : a.exclusions = .ok excluded) (hroot : a.readers.policy document = .ok root)
    (hopened : a.readers.archive archive = .error fault) :
    ((a.run d document archive).value.2 = .error e ∧ isAnsweredFailure e = false) ↔
      a.Unhandled d document archive excluded e := by
  rw [run_eq_error_iff_extract hexcluded hroot, hopened]
  constructor
  · rintro ⟨⟨cause, hcause, rfl⟩, hanswer⟩
    cases hcause
    refine .archive hroot hopened ?_
    cases hbroken : fault.isBroken with
    | false => rfl
    | true => simp [isAnsweredFailure, ExtractionError.unsupported?, hbroken] at hanswer
  · intro h
    refine ⟨?_, h.isAnsweredFailure_eq⟩
    cases h with
    | encoding hname => cases hroot.symm.trans hname
    | archive _ hfault =>
        cases hopened.symm.trans hfault
        exact ⟨_, rfl, rfl⟩
    | entry _ hok => cases hopened.symm.trans hok

/-- An open archive is not answered for where the data of an entry is not supported. -/
theorem run_unanswered_iff_of_opened {root : Xml.Element} {entries : List Archive.Entry}
    (hexcluded : a.exclusions = .ok excluded) (hroot : a.readers.policy document = .ok root)
    (hopened : a.readers.archive archive = .ok entries) :
    ((a.run d document archive).value.2 = .error e ∧ isAnsweredFailure e = false) ↔
      a.Unhandled d document archive excluded e := by
  rw [run_eq_error_iff_extract hexcluded hroot, hopened]
  constructor
  · rintro ⟨⟨cause, hcause, rfl⟩, hanswer⟩
    have hsome : cause.unsupported?.isSome := by simpa [isAnsweredFailure] using hanswer
    rcases extractFrom_unanswered_iff.1 ⟨hcause, hsome⟩ with
      ⟨w, fault, hcomes, hdata, hfault, rfl⟩
    exact .entry hroot hopened hcomes hdata hfault
  · intro h
    refine ⟨?_, h.isAnsweredFailure_eq⟩
    cases h with
    | encoding hname => cases hroot.symm.trans hname
    | archive _ hfault => cases hopened.symm.trans hfault
    | entry _ hsame hcomes hdata hfault =>
        cases hopened.symm.trans hsame
        have hfails := extractFrom_unanswered_iff.2 ⟨_, _, hcomes, hdata, hfault, rfl⟩
        exact ⟨_, hfails.1, rfl⟩

/-- An audit fails without an answer exactly for the faults that are not handled. -/
theorem run_unanswered_iff_unhandled (hexcluded : a.exclusions = .ok excluded) (e : AuditError) :
    ((a.run d document archive).value.2 = .error e ∧ isAnsweredFailure e = false) ↔
      a.Unhandled d document archive excluded e := by
  cases hroot : a.readers.policy document with
  | error cause => exact run_unanswered_iff_of_unread hroot
  | ok root =>
      cases hopened : a.readers.archive archive with
      | error fault => exact run_unanswered_iff_of_unopened hexcluded hroot hopened
      | ok entries => exact run_unanswered_iff_of_opened hexcluded hroot hopened

end Unanswered

/-! ## The command -/

namespace CheckCommand

/-- The arguments of the command make an audit, and name a policy and an archive that can be read. -/
structure Prepares (s : Surroundings) (d : Disk) (values : List (String × String)) (r : Readers)
    (a : Audit) (policy archive : Octets) : Prop where
  audit : ∃ c, (configurationOf s d values r).value = .ok c ∧
    Audit.ofConfiguration c
      (c.chosenOracle ((clientOf c s).value.bind Client.assistant)).value r = .ok a
  inputs : CheckCommand.inputs d values = .ok (policy, archive)

section Prepared

variable {s : Surroundings} {d : Disk} {values : List (String × String)} {r : Readers} {a : Audit}
  {policy archive : Octets}

/-- What is checked is the audit, with its configuration and its client. -/
theorem Prepares.exists_check (h : Prepares s d values r a policy archive) :
    ∃ c client, (check s d values r).value =
      ((a.run d (.octets policy) archive).value.1,
        ((a.run d (.octets policy) archive).value.2.mapError .audit).map fun run =>
          ⟨c, client, run⟩) := by
  rcases h.audit with ⟨c, hc, ha⟩
  refine ⟨c, (clientOf c s).value, ?_⟩
  unfold check
  rw [Traced.value_bind, hc]
  dsimp only
  rw [h.inputs]
  dsimp only
  rw [Traced.value_bind, Traced.value_bind, ha]
  rfl

/-- After an audit that fails, the command ends with its message or is interrupted by it. -/
theorem Prepares.execute_of_error (h : Prepares s d values r a policy archive) {e : AuditError}
    (he : (a.run d (.octets policy) archive).value.2 = .error e) :
    (execute s d values r).value.2 =
      if isAnsweredFailure e then .ok (failed e.message) else .error (.audit e) := by
  rcases h.exists_check with ⟨c, client, hcheck⟩
  unfold execute
  rw [Traced.value_bind, hcheck, he]
  rfl

/-- After a run, the command is interrupted by a report that cannot be written. -/
theorem Prepares.execute_of_unwritable (h : Prepares s d values r a policy archive) {run : Run}
    {cause : DiskError} (hrun : (a.run d (.octets policy) archive).value.2 = .ok run)
    (hreport : writeReport s (a.run d (.octets policy) archive).value.1 values run =
      .error cause) :
    (execute s d values r).value.2 = .error (.disk cause) := by
  rcases h.exists_check with ⟨c, client, hcheck⟩
  unfold execute
  rw [Traced.value_bind, hcheck, hrun]
  dsimp only [Except.mapError, Except.map]
  rw [hreport]
  rfl

/-- After a run whose report is written, the command ends well. -/
theorem Prepares.execute_of_written (h : Prepares s d values r a policy archive) {run : Run}
    {written : Disk × String} (hrun : (a.run d (.octets policy) archive).value.2 = .ok run)
    (hreport : writeReport s (a.run d (.octets policy) archive).value.1 values run =
      .ok written) :
    ∃ output, (execute s d values r).value.2 = .ok ⟨0, output, written.2⟩ := by
  rcases h.exists_check with ⟨c, client, hcheck⟩
  refine ⟨printed ⟨c, client, run⟩, ?_⟩
  unfold execute
  rw [Traced.value_bind, hcheck, hrun]
  dsimp only [Except.mapError, Except.map]
  rw [hreport]
  rfl

/-- The command is interrupted by a failure without an answer, or by its report. -/
theorem Prepares.execute_eq_error_iff (h : Prepares s d values r a policy archive)
    (i : Interruption) :
    let audited := (a.run d (.octets policy) archive).value
    (execute s d values r).value.2 = .error i ↔
      (∃ e, (audited.2 = .error e ∧ isAnsweredFailure e = false) ∧ i = .audit e) ∨
      ∃ run cause, audited.2 = .ok run ∧ writeReport s audited.1 values run = .error cause ∧
        i = .disk cause := by
  intro audited
  cases haudited : audited.2 with
  | error e =>
      rw [h.execute_of_error haudited]
      -- a failure that is answered ends the command, and any other one interrupts it
      by_cases hanswered : isAnsweredFailure e = true
      · simp [hanswered]
      · rw [if_neg hanswered]
        constructor
        · rintro ⟨⟩
          exact Or.inl ⟨e, ⟨rfl, by simpa using hanswered⟩, rfl⟩
        · rintro (⟨_, ⟨⟨⟩, -⟩, rfl⟩ | ⟨_, _, ⟨⟩, -⟩)
          rfl
  | ok run =>
      -- after a run only the report can fail
      cases hreport : writeReport s audited.1 values run with
      | error cause =>
          rw [h.execute_of_unwritable haudited hreport]
          constructor
          · rintro ⟨⟩
            exact Or.inr ⟨run, cause, rfl, hreport, rfl⟩
          · rintro (⟨_, ⟨⟨⟩, -⟩, -⟩ | ⟨run', cause', ⟨⟩, hcause, rfl⟩)
            cases hreport.symm.trans hcause
            rfl
      | ok written =>
          rcases h.execute_of_written haudited hreport with ⟨output, hended⟩
          rw [hended]
          simp [hreport]

/-- The code of the command says whether its audit gave a run. -/
theorem Prepares.code_of_execute (h : Prepares s d values r a policy archive) {f : Finished}
    (hf : (execute s d values r).value.2 = .ok f) :
    (f.code = 0 ∧ ∃ run, (a.run d (.octets policy) archive).value.2 = .ok run) ∨
      (f.code = 1 ∧ ∃ e, (a.run d (.octets policy) archive).value.2 = .error e) := by
  cases haudited : (a.run d (.octets policy) archive).value.2 with
  | error e =>
      rw [h.execute_of_error haudited] at hf
      split at hf
      · cases hf
        exact Or.inr ⟨rfl, e, rfl⟩
      · cases hf
  | ok run =>
      refine Or.inl ⟨?_, run, rfl⟩
      cases hreport : writeReport s (a.run d (.octets policy) archive).value.1 values run with
      | error cause =>
          rw [h.execute_of_unwritable haudited hreport] at hf
          cases hf
      | ok written =>
          rcases h.execute_of_written haudited hreport with ⟨output, hended⟩
          rw [hended] at hf
          cases hf
          rfl

end Prepared

/-- Without a path for a report, nothing can fail about it. -/
theorem writeReport_eq_of_no_output (s : Surroundings) (d : Disk)
    {values : List (String × String)} (r : Run) (h : values.lookup "output" = none) :
    writeReport s d values r = .ok (d, "") := by
  unfold writeReport
  rw [h]
  rfl

end CheckCommand

/--
However policies and archives are read, an audit whose excluded directories can be told fails without
an answer exactly for an encoding that cannot be used, for an archive that uses what is not
supported, and for such an entry that it comes to.
These faults interrupt the command, and so does a report that cannot be written. Else it ends with 0
after a run and with 1 after an error, and it does so wherever no report is asked for and no such
fault is met.
-/
theorem run_and_command_end (a : Audit) (d : Disk) (excluded : List String)
    (hexcluded : a.exclusions = .ok excluded) :
    (∀ document archive e,
      ((a.run d document archive).value.2 = .error e ∧ isAnsweredFailure e = false) ↔
        a.Unhandled d document archive excluded e) ∧
    ∀ s values r policy archive, Prepares s d values r a policy archive →
      let audited := (a.run d (.octets policy) archive).value
      let ended := (execute s d values r).value.2
      (∀ i, ended = .error i ↔
        (∃ e, a.Unhandled d (.octets policy) archive excluded e ∧ i = .audit e) ∨
        ∃ run cause, audited.2 = .ok run ∧ writeReport s audited.1 values run = .error cause ∧
          i = .disk cause) ∧
      (∀ f, ended = .ok f →
        (f.code = 0 ∧ ∃ run, audited.2 = .ok run) ∨ (f.code = 1 ∧ ∃ e, audited.2 = .error e)) ∧
      (values.lookup "output" = none →
        (∀ e, ¬ a.Unhandled d (.octets policy) archive excluded e) →
        ∃ f, ended = .ok f ∧ (f.code = 0 ∨ f.code = 1)) := by
  refine ⟨fun document archive e => run_unanswered_iff_unhandled hexcluded e, ?_⟩
  intro s values r policy archive hprepares audited ended
  have hunhandled : ∀ e, ((a.run d (.octets policy) archive).value.2 = .error e ∧
        isAnsweredFailure e = false) ↔
      a.Unhandled d (.octets policy) archive excluded e :=
    fun e => run_unanswered_iff_unhandled hexcluded e
  have hinterrupted := hprepares.execute_eq_error_iff
  simp only [hunhandled] at hinterrupted
  refine ⟨hinterrupted, fun f => hprepares.code_of_execute, ?_⟩
  intro hoption hhandled
  cases hended : ended with
  | error i =>
      -- no report is written, and no fault is met
      rcases (hinterrupted i).1 hended with ⟨e, he, -⟩ | ⟨run, cause, -, hreport, -⟩
      · exact absurd he (hhandled e)
      · rw [writeReport_eq_of_no_output s _ run hoption] at hreport
        cases hreport
  | ok f =>
      rcases hprepares.code_of_execute hended with ⟨hcode, -⟩ | ⟨hcode, -⟩
      · exact ⟨f, rfl, Or.inl hcode⟩
      · exact ⟨f, rfl, Or.inr hcode⟩

/-- A policy in an encoding that nobody knows. -/
def oddPolicy : Octets :=
  Text.encodeUtf8 "<?xml version='1.0' encoding='odd'?><Policys/>"

/-- The archive of one controller, packed in a way that is not supported. -/
def oddController : Octets :=
  oneController.set 59 9

/-- Entries are what they show: their names, and what comes of asking for their data. -/
theorem opened_eq_of_shown {archive : Octets} {shown : List (String × Except Archive.Fault Octets)}
    (h : ((Archive.opened archive).map fun entries => entries.map fun e => (e.name, e.data ())) =
      .ok shown) :
    Archive.opened archive = .ok (shown.map fun (name, data) => ⟨name, fun _ => data⟩) := by
  cases hopened : Archive.opened archive with
  | error fault => simp [hopened, Except.map] at h
  | ok entries =>
      rw [hopened] at h
      cases h
      rw [List.map_map]
      exact congrArg Except.ok (List.map_id entries).symm

theorem opened_oddController : Archive.opened oddController =
    .ok [⟨"src/a.controller.ts", fun _ => .error .unknownMethod⟩] := by
  have hshown : ((Archive.opened oddController).map fun entries =>
      entries.map fun e => (e.name, e.data ())) =
      .ok [("src/a.controller.ts", .error .unknownMethod)] := by
    decide +kernel
  exact opened_eq_of_shown hshown

/-- A disk with the policy, an archive, and a configuration. -/
def oddDisk : Disk :=
  ⟨[(["p"], .file oddPolicy), (["z"], .file oneController),
    (["c"], .file (Text.encodeUtf8 "ai_timeout_seconds: 9"))], []⟩

/-- Nothing around the command but a directory for files of short life. -/
def bareSurroundings : Surroundings :=
  ⟨[], "/t", Services.none "" "", ⟨"", ""⟩⟩

/-- The arguments that name the files of the disk. -/
def oddArguments : List (String × String) :=
  [("config", "/c"), ("policy", "/p"), ("archive", "/z")]

/-- These arguments make an audit. -/
theorem exists_prepares_oddArguments :
    ∃ a excluded, a.exclusions = .ok excluded ∧
      Prepares bareSurroundings oddDisk oddArguments Readers.usual a oddPolicy oneController ∧
      a.readers = Readers.usual := by
  have hloaded : ((configurationOf bareSurroundings oddDisk oddArguments).value.map fun c =>
      (c.place.toOption, c.exclusions.toOption)).toOption =
      some (some "/t/permcheck/nestjs-project", some ["auth", "user"]) := by
    decide +kernel
  have hinputs : inputs oddDisk oddArguments = .ok (oddPolicy, oneController) := by
    decide +kernel
  cases hc : (configurationOf bareSurroundings oddDisk oddArguments).value with
  | error e => simp [hc, Except.map, Except.toOption] at hloaded
  | ok c =>
      -- all that an audit takes from the configuration can be told
      have hfound : c.place.toOption = some "/t/permcheck/nestjs-project" ∧
          c.exclusions.toOption = some ["auth", "user"] := by
        simpa [hc, Except.map, Except.toOption] using hloaded
      cases hplace : c.place with
      | error e => simp [hplace, Except.toOption] at hfound
      | ok place =>
          cases hexcluded : c.exclusions with
          | error e => simp [hexcluded, Except.toOption] at hfound
          | ok excluded =>
              refine ⟨⟨place, c.exclusions, c.usesBasePath, c.completenessPolicy, c.isVerbose,
                (c.chosenOracle ((clientOf c bareSurroundings).value.bind
                  Client.assistant)).value, Readers.usual⟩, excluded, hexcluded,
                ⟨⟨c, hc, ?_⟩, hinputs⟩, rfl⟩
              unfold Audit.ofConfiguration
              rw [hplace]
              rfl

theorem run_and_command_end_oddPolicy :
    (execute bareSurroundings oddDisk oddArguments).value.2 =
        .error (.audit (.policy (.unknownEncoding "odd"))) ∧
      plainAudit.Unhandled ⟨[], []⟩ (.text "<Policys/>") oddController []
        (.extraction (.brokenEntry .unknownMethod)) := by
  constructor
  · -- the encoding of the policy is not known
    rcases exists_prepares_oddArguments with ⟨a, excluded, hexcluded, hprepares, hreaders⟩
    have hread : ((Policy.Document.octets oddPolicy).root.map fun _ => ()) =
        .error (.unknownEncoding "odd") := by
      decide +kernel
    have hroot : a.readers.policy (.octets oddPolicy) = .error (.unknownEncoding "odd") := by
      rw [hreaders]
      exact eq_error_of_map_eq_error hread
    have hunhandled : a.Unhandled oddDisk (.octets oddPolicy) oneController excluded
        (.policy (.unknownEncoding "odd")) :=
      .encoding hroot rfl
    have hends := (run_and_command_end a oddDisk excluded hexcluded).2 bareSurroundings
      oddArguments Readers.usual oddPolicy oneController hprepares
    exact (hends.1 _).2 (Or.inl ⟨_, hunhandled, rfl⟩)
  · -- the method of the entry is not supported
    have hextract : ((extractFrom ⟨[], []⟩ (plainAudit.readers.archive oddController)
        plainAudit.place []).value.2.map fun _ => ()) = .error (.brokenEntry .unknownMethod) := by
      have hopened : plainAudit.readers.archive oddController = _ := opened_oddController
      rw [hopened]
      decide +kernel
    obtain ⟨root, hroot⟩ : ∃ root, plainAudit.readers.policy (.text "<Policys/>") = .ok root :=
      exists_eq_ok_of_isOk (by decide +kernel)
    have hexcluded : plainAudit.exclusions = .ok [] := rfl
    have hfails := (run_eq_error_iff_extract hexcluded hroot).2
      ⟨_, eq_error_of_map_eq_error hextract, rfl⟩
    exact ((run_and_command_end plainAudit ⟨[], []⟩ [] hexcluded).1 _ _ _).1 ⟨hfails, rfl⟩

end RoleAudit
