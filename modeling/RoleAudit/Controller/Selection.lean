import RoleAudit.Controller.Decorator

/-!
# The controller among the classes

A source may hold several classes. The controller is the first one that carries the controller
decorator, on itself or on the export that holds it; without any, it is the first class.

- `classes`: the classes of a source with their decorators, outer ones before inner ones;
- `selected?`: the controller.
-/

namespace RoleAudit

open Syntax

/-- A class of a source. -/
structure ClassFound where
  node : Node
  body : Node
  /-- Its own decorators, then those of the export that holds it. -/
  decorators : List Decorator

def controllerMark : String := "Controller"

/-- The decorators that are children of a node. -/
def decoratorsOf (n : Node) : List Decorator :=
  (n.children.filter fun c => c.kind == .decorator).map Decorator.ofNode

namespace ClassFound

/-- A node that declares a class with a body, with the parent of the node. -/
def ofNode? (parent : Option Node) (n : Node) : Option ClassFound :=
  if n.kind == .classDeclaration || n.kind == .abstractClass then
    match n.child? .body with
    | none => none
    | some body =>
      -- a decorator before `export` belongs to the statement, not to the class
      let exported :=
        match parent with
        | some p => if p.kind == .exportStatement then decoratorsOf p else []
        | none => []
      some ⟨n, body, decoratorsOf n ++ exported⟩
  else none

def isController (c : ClassFound) : Bool :=
  c.decorators.any fun d => d.name == controllerMark

/-- The path that the controller decorator gives, or the empty text. -/
def basePath (c : ClassFound) : String :=
  match c.decorators.find? fun d => d.name == controllerMark with
  | some d => d.arguments.head?.getD ""
  | none => ""

end ClassFound

def classes (root : Node) : List ClassFound :=
  (root.withParents none).filterMap fun (parent, n) => ClassFound.ofNode? parent n

/-- The controller among some classes. -/
def selected? (found : List ClassFound) : Option ClassFound :=
  match found.find? ClassFound.isController with
  | some c => some c
  | none => found.head?

end RoleAudit
