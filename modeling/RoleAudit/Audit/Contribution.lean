import RoleAudit.Assembly
import RoleAudit.Audit.Basic
import RoleAudit.Resolution.Resolver

/-!
# The contribution of a controller

What one controller adds to an audit: its summary, with the permissions that it implements, what
could not be resolved, and the questions that the oracle was asked.

- `entitiesFor`: the entity of each endpoint through the service, or the path of the controller;
- `conditionsFor`: the condition of each endpoint through its policy;
- `contribution`: everything about one controller.

A failure of the oracle is an answer that gives no value. Nothing that is missing ends the analysis
of a controller.
-/

namespace RoleAudit

/-- What one controller adds to an audit. -/
structure Contribution where
  /-- The summary, unless the file could not be read. -/
  summary : Option ControllerSummary
  notes : List Note
  questions : List Question

def Contribution.permissions (c : Contribution) : List Permission :=
  (c.summary.map (·.permissions)).getD []

/-- The values that are not empty. -/
def given (answers : Answers) : Answers :=
  answers.filter fun (_, v) => !v.isEmpty

/-- The names that have no value. -/
def unanswered (names : List String) (answers : Answers) : List String :=
  names.filter fun n => (answers.lookup n).isNone

def listed (names : List String) : String :=
  Text.joinWith ", " names

/-- A note, if there are names to note. -/
def noteNames (label : String) (kind : NoteKind) (start : String) (names : List String) :
    List Note :=
  if names.isEmpty then [] else [⟨label, kind, start ++ listed names⟩]

/-- Report that the oracle failed, and note it. -/
def noteFailure (label what error : String) : Traced (List Note) := do
  Traced.note .warning .audit s!"[ORACLE] {what} resolution failed for {label}: {error}"
  return [⟨label, .oracle, s!"{what} resolution failed: {error}"⟩]

/-- What was found out about one part of the facts. -/
structure Finding (α : Type) where
  value : List (String × α)
  notes : List Note
  questions : List Question

/-! ## Entities -/

/-- Ask for the entities of the methods of a service that was found. -/
def askEntities (a : Audit) (label : String) (facts : ControllerFacts) (s : ServiceResolution) :
    Traced (Finding String) := do
  let asked : List Question := [.entities s.methods s.content]
  match ← a.oracle.entities s.methods s.content with
  | .error e => return ⟨[], ← noteFailure label "Entity" e, asked⟩
  | .ok answers =>
    let known := given answers
    -- an empty answer is none, so it is noted as well
    let missing := unanswered s.methods known
    let notes := noteNames label .entity s!"No entity for {s.serviceName}." missing
    return ⟨entityMappings facts s.property known, notes, asked⟩

/-- The entity of each endpoint, as far as the service of the controller was found. -/
def entitiesFor (a : Audit) (label : String) (facts : ControllerFacts) (s : ServiceResolution) :
    Traced (Finding String) :=
  if !s.success then
    return ⟨[], [⟨label, .service, s.error.getD "Service not found"⟩], []⟩
  else if s.methods.isEmpty then return ⟨[], [], []⟩
  else askEntities a label facts s

/-! ## Conditions -/

/-- The endpoints that have a policy, with it. -/
def policyUses (facts : ControllerFacts) : List (String × String) :=
  facts.policies.filter fun (_, policy) => !policy.isEmpty

/-- Ask for the conditions of policies that were found. -/
def askConstraints (a : Audit) (label : String) (facts : ControllerFacts) (found : List String)
    (content : String) : Traced (Finding String) := do
  let asked : List Question := [.constraints found content]
  let (answers, notes) ←
    match ← a.oracle.constraints found (policyUses facts) content with
    -- after a failure no policy has a condition, and each is noted
    | .error e => pure ([], ← noteFailure label "Constraint" e)
    | .ok answers => pure (given answers, [])
  let blank := noteNames label .constraint "No constraint for " (unanswered found answers)
  return ⟨answers, notes ++ blank, asked⟩

/-- The condition of each endpoint, as far as its policy was found. -/
def conditionsFor (a : Audit) (label : String) (facts : ControllerFacts) (p : PolicyResolution) :
    Traced (Finding (Option String)) := do
  let found := facts.policyNames.filter p.resolvedNames.contains
  let lost := facts.policyNames.filter fun n => !found.contains n
  let noted := noteNames label .policy "Cannot find policy content for " lost
  if found.isEmpty then return ⟨constraintMappings facts [], noted, []⟩
  else
    let asked ← askConstraints a label facts found p.content
    return ⟨constraintMappings facts asked.value, noted ++ asked.notes, asked.questions⟩

/-! ## A controller -/

/-- Analysing with the texts of files that were read before. -/
abbrev Analysing (α : Type) := StateT TextCache Traced α

/-- Report without touching the texts. -/
def reporting (t : Traced α) : Analysing α :=
  fun cache => t >>= fun a => pure (a, cache)

/-- Look something up in the files of the project. -/
def lookingUp (s : StateM TextCache α) : Analysing α :=
  fun cache => pure (s.run cache)

/-- The class of the service of a controller, if it was needed, and the resources of endpoints. -/
def resourcesOf (a : Audit) (d : Disk) (r : Resolver) (label path : String)
    (facts : ControllerFacts) : Analysing (String × Finding String) := do
  -- then no service is looked for and nothing is asked
  if a.usesBasePath then return ("", ⟨basePathMappings facts, [], []⟩)
  else
    let service ← lookingUp (resolveService d r facts (some path))
    reporting (service.report a.isVerbose)
    return (service.serviceName, ← reporting (entitiesFor a label facts service))

/-- The conditions of the endpoints of a controller; policies are only looked for if it uses any. -/
def conditionsOf (a : Audit) (d : Disk) (r : Resolver) (label path : String)
    (facts : ControllerFacts) : Analysing (Finding (Option String)) := do
  if facts.policyNames.isEmpty then return ⟨constraintMappings facts [], [], []⟩
  else
    let policies ← lookingUp (resolvePolicies d r facts (some path))
    reporting policies.report
    reporting (conditionsFor a label facts policies)

def contributionOf (a : Audit) (d : Disk) (r : Resolver) (label path : String)
    (facts : ControllerFacts) : Analysing Contribution := do
  let summary : ControllerSummary :=
    ⟨label, facts.className, facts.basePath, facts.methods, "", facts.policyNames, []⟩
  if facts.methods.isEmpty then
    reporting (Traced.note .debug .audit s!"[CHECKER] {label}: no methods")
    return ⟨some summary, [], []⟩
  else
    let (service, resources) ← resourcesOf a d r label path facts
    let conditions ← conditionsOf a d r label path facts
    let permissions ← reporting
      (assemble ⟨facts.roles, facts.actions, resources.value, conditions.value⟩ a.completeness)
    reporting (Traced.noteIf a.isVerbose .debug .audit
      s!"[CHECKER] {label}: {permissions.length} permissions")
    return ⟨some { summary with service := service, permissions := permissions },
      resources.notes ++ conditions.notes, resources.questions ++ conditions.questions⟩

def contribution (a : Audit) (d : Disk) (r : Resolver) (path : String) :
    Analysing Contribution := do
  let label := projectRelative (d.absolute r.project) path
  match readText? d r.project path with
  -- without a source there is no summary, only the note
  | none => return ⟨none, [⟨label, .controller, "Controller file could not be read"⟩], []⟩
  | some source =>
    let facts ← reporting (extractFacts a.isVerbose source)
    contributionOf a d r label path facts

end RoleAudit
