import RoleAudit.Controller.Facts
import RoleAudit.Controller.Selection
import RoleAudit.Log
import RoleAudit.Ordered
import RoleAudit.Syntax.Source
import RoleAudit.Text.Blank
import RoleAudit.Text.Case

/-!
# Facts from a source

How the facts about a controller are read off its syntax tree.

- `methodsOf`, `memberDecorators`: the methods of a class body and the decorators of its members;
- `windows`: each method with the decorators between the name of the method before it and its own;
- `callsIn`: the calls on properties of `this` inside a body, each once;
- `ControllerFacts.ofTree`, `ControllerFacts.ofSource`: the facts of a tree and of a source.

A decorator counts for a method only if no other method stands between them, and of several
decorators with one purpose the nearest counts.
-/

namespace RoleAudit

open Syntax

/-- The decorators that give an endpoint its verb. -/
def actionMarks : List String := ["Get", "Post", "Put", "Delete", "Patch"]

/-- The decorators that give an endpoint its roles. -/
def roleMarks : List String := ["Roles"]

/-- The decorators that give an endpoint its policy. -/
def policyMarks : List String := ["CheckPolicies"]

/-- The method that makes an object; it is no endpoint. -/
def constructorName : String := "constructor"

structure MethodFound where
  node : Node
  name : String
  /-- Where its name starts. -/
  place : Nat
  /-- The line of its name, counted from one. -/
  line : Nat

def MethodFound.ofNode? (n : Node) : Option MethodFound :=
  (n.child? .name).map fun name => ⟨n, name.text, name.start, name.line + 1⟩

/-- The methods of a class body in source order. -/
def methodsOf (body : Node) : List MethodFound :=
  ordered (fun a b => a.place ≤ b.place)
    ((body.children.filter fun c => c.kind == .method).filterMap MethodFound.ofNode?)

/-- The decorators that stand beside the members of a class body, or directly in its methods. -/
def memberDecorators (body : Node) : List Decorator :=
  body.children.flatMap fun c =>
    match c.kind with
    -- the tree puts a decorator beside its method or in it
    | .decorator => [Decorator.ofNode c]
    | .method => decoratorsOf c
    | _ => []

/-- Each method with the decorators between the place given, or the name before, and its name. -/
def windows (decorators : List Decorator) : Nat → List MethodFound →
    List (MethodFound × List Decorator)
  | _, [] => []
  | low, m :: rest =>
    (m, decorators.filter fun d => low ≤ d.place && d.place < m.place) ::
      windows decorators m.place rest

/-- The property and the method that a call names, if it is a call on a property of `this`. -/
def serviceCall? (call : Node) : Option (String × String) := do
  let function ← call.child? .function
  -- the function is `this.property.method`, a member of a member of `this`
  if function.kind != .member then none
  let owner ← function.child? .object
  if owner.kind != .member then none
  let holder ← owner.child? .object
  if holder.kind != .thisKeyword then none
  return (owner.childText .property, function.childText .property)

/-- The items in order, each once. -/
def eachOnce [BEq α] (items : List α) : List α :=
  items.foldl (fun seen a => if seen.contains a then seen else seen ++ [a]) []

/-- The calls on properties of `this` inside a method body, in source order, each once. -/
def callsIn (caller : String) (body : Node) : List ServiceCall :=
  eachOnce ((body.ofKind .call).filterMap fun c =>
    (serviceCall? c).map fun (property, method) => ⟨caller, property, method⟩)

/-- An endpoint from a method and the decorators written on it. -/
def Endpoint.ofMethod (m : MethodFound) (window : List Decorator) : Endpoint :=
  let action := Decorator.nearest? actionMarks window
  let role := Decorator.nearest? roleMarks window
  let policy := Decorator.nearest? policyMarks window
  { name := m.name
    line := m.line
    action := (action.map fun d => Text.upper d.name).getD ""
    roles := (role.map (·.arguments)).getD []
    policy := (policy.bind (·.constructed.head?)).getD ""
    route := action.map fun d => d.arguments.head?.getD ""
    calls :=
      match m.node.child? .body with
      | some body => callsIn m.name body
      | none => [] }

/-- The methods of a class body that are endpoints, each with the decorators that count for it. -/
def markedMethods (body : Node) : List (MethodFound × List Decorator) :=
  (windows (memberDecorators body) body.start (methodsOf body)).filter fun (m, _) =>
    m.name != constructorName

def endpointsOf (body : Node) : List Endpoint :=
  (markedMethods body).map fun (m, window) => Endpoint.ofMethod m window

/-- The name and the type of a parameter, if it has a type. -/
def typedParameter? (n : Node) : Option (String × String) := do
  if n.kind != .parameter && n.kind != .optionalParameter then none
  let pattern ← n.child? .pattern
  -- the node of a type holds the colon before it
  let written := String.ofList ((n.childText .type).toList.dropWhile (· == ':'))
  let type := Text.strip written
  if type.isEmpty then none
  return (pattern.text, type)

/-- The parameters of the constructor that carry a type; a later constructor counts. -/
def constructorParameters (body : Node) : List (String × String) :=
  let constructors := body.children.filter fun c =>
    c.kind == .method && c.childText .name == constructorName
  match constructors.getLast? with
  | none => []
  | some c =>
    match c.child? .parameters with
    | none => []
    | some parameters => parameters.children.filterMap typedParameter?

/-- What a specifier imports from a path, under its new name if it gives one. -/
def importedName (path : String) (specifier : Node) : ImportedName :=
  match specifier.child? .newName with
  | some name => ⟨name.text, path⟩
  | none => ⟨specifier.childText .name, path⟩

/-- The names that one statement imports. -/
def importsOf (statement : Node) : List ImportedName :=
  match statement.child? .source with
  | none => []
  | some source => (statement.ofKind .importSpecifier).map (importedName (valueText source))

def importsIn (root : Node) : List ImportedName :=
  (root.children.filter fun c => c.kind == .importStatement).flatMap importsOf

def ControllerFacts.ofClass (imports : List ImportedName) (c : ClassFound) : ControllerFacts :=
  { className := c.node.childText .name
    basePath := c.basePath
    endpoints := endpointsOf c.body
    parameters := constructorParameters c.body
    imports := imports }

def ControllerFacts.ofTree (root : Node) : ControllerFacts :=
  match selected? (classes root) with
  | some c => ControllerFacts.ofClass (importsIn root) c
  | none => ⟨"", "", [], [], importsIn root⟩

def ControllerFacts.ofSource (source : String) : ControllerFacts :=
  ControllerFacts.ofTree (Node.ofSource source)

/-- The distinct policies of the endpoints in ascending order. -/
def ControllerFacts.policyNames (f : ControllerFacts) : List String :=
  Text.sorted (Text.distinct ((f.endpoints.map (·.policy)).filter fun p => !p.isEmpty))

/-- Read the facts of a source, and report what was found. -/
def extractFacts (debug : Bool) (source : String) : Traced ControllerFacts := do
  let root := Node.ofSource source
  let found := classes root
  let facts := ControllerFacts.ofTree root
  Traced.noteIf (1 < found.length && !found.any ClassFound.isController) .debug .facts
    s!"[FACTS] No @{controllerMark} class among {found.length}; using the first"
  let shown := if facts.className.isEmpty then "<anonymous>" else facts.className
  Traced.noteIf debug .debug .facts s!"[FACTS] {shown}: {facts.endpoints.length} methods"
  return facts

end RoleAudit
