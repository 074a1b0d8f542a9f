import RoleAudit.Audit.Contribution
import RoleAudit.Policy
import RoleAudit.Reconciliation

/-!
# Running an audit

- `Run`: what an audit gives: the declared rules, what the controllers contributed, one after the
  other in the order of the archive, and the comparison of the two;
- `Audit.run`: read the policy, extract the project, analyse its controllers, and compare.

The policy is read before the disk is touched. All controllers of a run are analysed with one
resolver, which keeps the texts that it has read.
-/

namespace RoleAudit

/-- What an audit gives, as far as it has come. -/
structure Run where
  /-- The name of the oracle. -/
  oracle : String
  rules : List Permission
  extraction : Extraction
  /-- The implemented permissions. -/
  permissions : List Permission
  /-- The controllers that were read. -/
  controllers : List ControllerSummary
  /-- What could not be resolved. -/
  unresolved : List Note
  /-- What the oracle was asked. -/
  questions : List Question

namespace Run

/-- A run before the first controller. -/
def begun (oracle : String) (rules : List Permission) (extraction : Extraction) : Run :=
  ⟨oracle, rules, extraction, [], [], [], []⟩

/-- A run with what one more controller contributes. -/
def add (r : Run) (c : Contribution) : Run :=
  { r with
    permissions := r.permissions ++ c.permissions
    controllers := r.controllers ++ c.summary.toList
    unresolved := r.unresolved ++ c.notes
    questions := r.questions ++ c.questions }

/-- The comparison of what is declared and what is implemented. -/
def result (r : Run) : Reconciliation :=
  reconcile r.rules r.permissions

end Run

/-- Why an audit gives nothing. -/
inductive AuditError where
  | policy (error : Xml.Error)
  | exclusions (error : ExclusionError)
  | extraction (error : ExtractionError)

def AuditError.message : AuditError → String
  | policy error => Policy.failureMessage error
  | exclusions error => error.message
  | extraction error => error.message

/-- Analyse controllers one after the other, and add to a run what each contributes. -/
def analyseEach (a : Audit) (d : Disk) (r : Resolver) : List String → Run → Analysing Run
  | [], run => return run
  | path :: rest, run => do
    let c ← contribution a d r path
    analyseEach a d r rest (run.add c)

/-- Analyse an extracted project. -/
def Audit.analyse (a : Audit) (d : Disk) (rules : List Permission) (e : Extraction) :
    Traced Run := do
  let begun := Run.begun a.oracle.name rules e
  let (run, _) ← (analyseEach a d (Resolver.usual e.path) e.controllers begun).run []
  Traced.note .info .audit
    (s!"[CHECKER] {run.permissions.length} implemented permissions, " ++
      s!"{run.result.redundant.length} redundant, {run.result.lacking.length} lacking")
  return run

/-- Extract a project and analyse it. -/
def Audit.extractAndAnalyse (a : Audit) (d : Disk) (rules : List Permission) (archive : Octets) :
    Traced (Disk × Except AuditError Run) := do
  match a.exclusions with
  | .error e => return (d, .error (.exclusions e))
  | .ok excluded =>
    match ← extractFrom d (a.readers.archive archive) a.place excluded with
    | (d, .error e) => return (d, .error (.extraction e))
    | (d, .ok e) => return (d, .ok (← a.analyse d rules e))

/-- Compare a policy document with the project in an archive. -/
def Audit.run (a : Audit) (d : Disk) (document : Policy.Document) (archive : Octets) :
    Traced (Disk × Except AuditError Run) := do
  match ← (Policy.declaredBy (a.readers.policy document)).run with
  | .error e => return (d, .error (.policy e))
  | .ok rules =>
    Traced.note .info .audit s!"[CHECKER] {rules.length} declared rules"
    a.extractAndAnalyse d rules archive

end RoleAudit
