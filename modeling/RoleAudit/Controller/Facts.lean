/-!
# Facts about a controller

What the source of a controller says about the permissions that it implements.

- `Endpoint`: one method of the controller with what its decorators and its calls say;
- `ControllerFacts`: the endpoints in source order, and what belongs to the class as a whole;
- `methods`, `roles`, `actions`, `policies`: the endpoints seen as lists of named values, one entry
  for each endpoint; `routes`, `lines`: the endpoints seen as tables, where a later endpoint takes
  the place of an earlier one of its name.
-/

namespace RoleAudit

/-- A call `this.property.method(…)` inside a method of a controller. -/
structure ServiceCall where
  /-- The method that calls. -/
  caller : String
  /-- The property that holds the service. -/
  property : String
  /-- The method of the service. -/
  method : String
  deriving DecidableEq, Repr

/-- A method of a controller. -/
structure Endpoint where
  name : String
  /-- The line of the name, counted from one. -/
  line : Nat
  /-- The verb in capitals, or the empty text. -/
  action : String
  roles : List String
  /-- The class of the policy, or the empty text. -/
  policy : String
  /-- The path after the verb, if there is a verb. -/
  route : Option String
  calls : List ServiceCall
  deriving DecidableEq, Repr

/-- A name that a source takes from another one. -/
structure ImportedName where
  name : String
  path : String
  deriving DecidableEq, Repr

/-- What a source says about its controller. -/
structure ControllerFacts where
  className : String
  basePath : String
  endpoints : List Endpoint
  /-- The parameters of the constructor that carry a type. -/
  parameters : List (String × String)
  imports : List ImportedName
  deriving DecidableEq, Repr

/-- Give a key a value in a table; a known key keeps its place. -/
def setEntry (key : String) (value : α) : List (String × α) → List (String × α)
  | [] => [(key, value)]
  -- no key stands twice in a table, so the first one found is the only one
  | (k, v) :: rest => if k == key then (k, value) :: rest else (k, v) :: setEntry key value rest

/-- A table from entries, where later entries of a key replace earlier ones. -/
def tableOf (entries : List (String × α)) : List (String × α) :=
  entries.foldl (fun table (key, value) => setEntry key value table) []

namespace ControllerFacts

def methods (f : ControllerFacts) : List String :=
  f.endpoints.map (·.name)

def roles (f : ControllerFacts) : List (String × List String) :=
  f.endpoints.map fun e => (e.name, e.roles)

def actions (f : ControllerFacts) : List (String × String) :=
  f.endpoints.map fun e => (e.name, e.action)

def policies (f : ControllerFacts) : List (String × String) :=
  f.endpoints.map fun e => (e.name, e.policy)

/-- The path of each endpoint that has a verb. -/
def routes (f : ControllerFacts) : List (String × String) :=
  tableOf (f.endpoints.filterMap fun e => e.route.map fun r => (e.name, r))

def lines (f : ControllerFacts) : List (String × Nat) :=
  tableOf (f.endpoints.map fun e => (e.name, e.line))

/-- The calls of all endpoints in order. -/
def calls (f : ControllerFacts) : List ServiceCall :=
  f.endpoints.flatMap (·.calls)

def callsOn (f : ControllerFacts) (property : String) : List ServiceCall :=
  f.calls.filter fun c => c.property == property

end ControllerFacts

end RoleAudit
