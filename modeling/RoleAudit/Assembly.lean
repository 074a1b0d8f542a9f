import RoleAudit.Controller.Facts
import RoleAudit.Log
import RoleAudit.Naming
import RoleAudit.Permission
import RoleAudit.Text.Blank
import RoleAudit.Text.Cut
import RoleAudit.Text.Quoted

/-!
# Permissions from facts

The roles, actions, resources and conditions of the methods of a controller arrive as four lists of
named values. A method becomes permissions, one for each role, when it has all that it needs.

- `lookup?`, `keysOf`, `joinThrough`: the first value of a name, the names in order, two lists
  joined;
- `entityMappings`, `basePathMappings`, `constraintMappings`: resources and conditions of methods;
- `Completeness`: whether a condition may be unresolved;
- `assemble`: the permissions of all methods;
- `GivenFacts`, `assembleGiven`: the same for lists in which values may be missing.
-/

namespace RoleAudit

/-! ## Named values -/

/-- The first value of a name. -/
def lookup? (entries : List (String × α)) (key : String) : Option α :=
  entries.lookup key

/-- The names of several lists in order of first appearance. -/
def keysOf (names : List String) : List String :=
  Text.distinct names

/-- Join names to values over what stands between them; a name without a value is dropped. -/
def joinThrough (left : List (String × String)) (right : List (String × α)) : List (String × α) :=
  left.filterMap fun (key, between) => (lookup? right between).map fun value => (key, value)

/-! ## Resources and conditions -/

/-- The first method that each caller calls, in order of the callers' first calls. -/
def firstCalls (calls : List ServiceCall) : List (String × String) :=
  calls.map fun c => (c.caller, c.method)

/-- The entity of each endpoint, through the first method that it calls on the service. -/
def entityMappings (facts : ControllerFacts) (property : String)
    (entities : List (String × String)) : List (String × String) :=
  let first := firstCalls (facts.callsOn property)
  joinThrough (facts.methods.filterMap fun m => (lookup? first m).map fun s => (m, s)) entities

/-- The first segment of the controller's path, for each endpoint. -/
def basePathMappings (facts : ControllerFacts) : List (String × String) :=
  facts.methods.map fun m => (m, Naming.moduleName facts.basePath)

/-- The condition for a policy: none without a policy, else its text, which may be unresolved. -/
def conditionFor (constraints : List (String × String)) (policy : String) : Option String :=
  -- without a policy there is a condition, the empty one
  if policy.isEmpty then some "" else lookup? constraints policy

/-- The condition of each endpoint, through its policy. -/
def constraintMappings (facts : ControllerFacts) (constraints : List (String × String)) :
    List (String × Option String) :=
  facts.policies.map fun (method, policy) => (method, conditionFor constraints policy)

/-! ## Assembly -/

/-- What a method needs before it becomes permissions. -/
inductive Completeness where
  /-- A role, an action, a resource and a resolved condition. -/
  | allFacts
  /-- An unresolved condition counts as none. -/
  | conditionOptional
  deriving DecidableEq, Repr

namespace Completeness

def name : Completeness → String
  | allFacts => "all_facts"
  | conditionOptional => "condition_optional"

/-- Read a written name. -/
def ofName? (s : String) : Option Completeness :=
  [allFacts, conditionOptional].find? fun c => c.name == s

/-- What is said of a name that is none. -/
def unknownMessage (s : String) : String :=
  Text.quoted s ++ " is not a valid CompletenessPolicy"

end Completeness

/-- The four lists that permissions are made of. -/
structure MethodFacts where
  roles : List (String × List String)
  actions : List (String × String)
  resources : List (String × String)
  conditions : List (String × Option String)

namespace MethodFacts

/-- The methods in order of first appearance. -/
def methods (f : MethodFacts) : List String :=
  keysOf (f.roles.map (·.1) ++ f.actions.map (·.1) ++ f.resources.map (·.1) ++
    f.conditions.map (·.1))

/-- The roles of a method, without blanks around them and without empty ones. -/
def rolesOf (f : MethodFacts) (method : String) : List String :=
  (((lookup? f.roles method).getD []).map Text.strip).filter fun r => !r.isEmpty

/-- The action of a method, or the empty text. -/
def actionOf (f : MethodFacts) (method : String) : String :=
  Text.strip ((lookup? f.actions method).getD "")

/-- The resource of a method, or the empty text. -/
def resourceOf (f : MethodFacts) (method : String) : String :=
  Text.strip ((lookup? f.resources method).getD "")

/-- The condition of a method as far as it is resolved. -/
def conditionOf? (f : MethodFacts) (policy : Completeness) (method : String) : Option String :=
  -- a method without an entry and one with an unresolved condition are alike
  match (lookup? f.conditions method).join with
  | some c => some (Text.strip c)
  | none =>
    match policy with
    | .allFacts => none
    | .conditionOptional => some ""

/-- What a method lacks. -/
def missing (f : MethodFacts) (policy : Completeness) (method : String) : List String :=
  (if (f.rolesOf method).isEmpty then ["role"] else []) ++
    (if (f.actionOf method).isEmpty then ["action"] else []) ++
    (if (f.resourceOf method).isEmpty then ["resource"] else []) ++
    (if (f.conditionOf? policy method).isNone then ["condition"] else [])

/-- The permissions of one method: one for each role, or none if it lacks something. -/
def permissionsOf (f : MethodFacts) (policy : Completeness) (method : String) : List Permission :=
  if (f.actionOf method).isEmpty || (f.resourceOf method).isEmpty then []
  else
    match f.conditionOf? policy method with
    | none => []
    | some condition =>
      -- without roles this is no permission either
      (f.rolesOf method).map fun role =>
        ⟨role, f.actionOf method, f.resourceOf method, condition⟩

/-- The permissions of all methods. -/
def permissions (f : MethodFacts) (policy : Completeness) : List Permission :=
  f.methods.flatMap (f.permissionsOf policy)

end MethodFacts

/-- The permissions of all methods; what is dropped is reported. -/
def assemble (f : MethodFacts) (policy : Completeness) : Traced (List Permission) :=
  ⟨f.methods.filterMap fun m =>
    match f.missing policy m with
    | [] => none
    | lacks =>
      let what := Text.joinWith ", " lacks
      some ⟨.debug, .assembly, s!"[ASSEMBLER] Dropping {m}: missing {what}"⟩,
    f.permissions policy⟩

/-! ## Lists with missing values -/

/-- The roles of a method as they may be given: one role, a list with gaps, or nothing. -/
inductive GivenRoles where
  | one (role : String)
  | several (roles : List (Option String))
  | absent
  deriving DecidableEq, Repr

namespace GivenRoles

/-- The places for roles in order; a place may be empty. -/
def places : GivenRoles → List (Option String)
  | one role => [some role]
  | several roles => roles
  | absent => []

def texts (roles : GivenRoles) : List String :=
  roles.places.filterMap id

end GivenRoles

/--
The four lists as they may be given: any value may be missing. A mapping of several names to values
stands in its list as these names one after the other.
-/
structure GivenFacts where
  roles : List (String × GivenRoles)
  actions : List (String × Option String)
  resources : List (String × Option String)
  conditions : List (String × Option String)

/-- The lists with what is there: a missing action or resource is an empty one. -/
def GivenFacts.settled (g : GivenFacts) : MethodFacts where
  roles := g.roles.map fun (method, roles) => (method, roles.texts)
  actions := g.actions.map fun (method, action) => (method, action.getD "")
  resources := g.resources.map fun (method, resource) => (method, resource.getD "")
  conditions := g.conditions

/-- The permissions of all methods, from lists with missing values. -/
def assembleGiven (g : GivenFacts) (policy : Completeness) : Traced (List Permission) :=
  assemble g.settled policy

end RoleAudit
