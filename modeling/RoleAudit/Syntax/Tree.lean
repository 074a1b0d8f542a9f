/-!
# Syntax trees

The tree of a TypeScript source, as far as an audit looks at it.

- `Node`: a named node with its kind, its role in its parent, where it starts, its text, and its
  named children in source order; comments are children like any other;
- `preorder`: the nodes of a tree, parents before their children and in source order;
- `withParents`: the same nodes, each with its parent;
- `search`: the nodes of a tree that satisfy a test, found with an explicit list of pending nodes.
-/

namespace RoleAudit
namespace Syntax

inductive Kind where
  | program
  | classDeclaration
  | abstractClass
  | classExpression
  | classBody
  | method
  | decorator
  | call
  | member
  | construction
  | importStatement
  | importSpecifier
  | exportStatement
  | parameter
  | optionalParameter
  | arguments
  | array
  | string
  | template
  | thisKeyword
  | superKeyword
  | comment
  | other
  deriving DecidableEq, Repr

/-- What a node is to its parent. -/
inductive Role where
  | none
  | name
  | newName
  | body
  | function
  | arguments
  | object
  | property
  | constructor
  | parameters
  | pattern
  | type
  | source
  deriving DecidableEq, Repr

/-- A named node of a syntax tree. -/
inductive Node where
  | mk (kind : Kind) (role : Role) (start line : Nat) (text : String) (children : List Node)

namespace Node

def kind : Node → Kind
  | mk kind _ _ _ _ _ => kind

def role : Node → Role
  | mk _ role _ _ _ _ => role

/-- How many characters stand before a node. -/
def start : Node → Nat
  | mk _ _ start _ _ _ => start

/-- How many line feeds stand before a node. -/
def line : Node → Nat
  | mk _ _ _ line _ _ => line

def text : Node → String
  | mk _ _ _ _ text _ => text

def children : Node → List Node
  | mk _ _ _ _ _ children => children

def stop (n : Node) : Nat :=
  n.start + n.text.length

def withRole (role : Role) : Node → Node
  | mk kind _ start line text children => mk kind role start line text children

/-- The first child in a role. -/
def child? (n : Node) (role : Role) : Option Node :=
  n.children.find? fun c => c.role == role

def childText (n : Node) (role : Role) : String :=
  match n.child? role with
  | some c => c.text
  | none => ""

mutual

/-- The nodes of a tree: a node, then the nodes of its children. -/
def preorder : Node → List Node
  | mk kind role start line text children =>
    mk kind role start line text children :: preorderAll children

/-- The nodes of several trees, one tree after the other. -/
def preorderAll : List Node → List Node
  | [] => []
  | n :: rest => preorder n ++ preorderAll rest

end

mutual

/-- The nodes of a tree in the same order, each with its parent. -/
def withParents (parent : Option Node) : Node → List (Option Node × Node)
  | mk kind role start line text children =>
    let n := mk kind role start line text children
    (parent, n) :: allWithParents (some n) children

/-- The nodes of several trees with one parent, each with its own parent. -/
def allWithParents (parent : Option Node) : List Node → List (Option Node × Node)
  | [] => []
  | n :: rest => withParents parent n ++ allWithParents parent rest

end

mutual

def size : Node → Nat
  | mk _ _ _ _ _ children => 1 + sizeAll children

/-- The number of nodes of several trees. -/
def sizeAll : List Node → Nat
  | [] => 0
  | n :: rest => size n + sizeAll rest

end

/--
Take nodes from the front of a list of pending ones and put their children in their place, for a
number of steps; the nodes that satisfy the test are kept in the order in which they are taken.
-/
def searchPending (test : Node → Bool) : Nat → List Node → List Node
  | 0, _ => []
  | _ + 1, [] => []
  | steps + 1, n :: pending =>
    if test n then n :: searchPending test steps (n.children ++ pending)
    else searchPending test steps (n.children ++ pending)

/-- The nodes of a tree that satisfy a test, parents first and in source order. -/
def search (n : Node) (test : Node → Bool) : List Node :=
  searchPending test n.size [n]

def ofKind (n : Node) (kind : Kind) : List Node :=
  n.search fun m => m.kind == kind

end Node

/-! ## Comments -/

mutual

/--
Put a comment into a tree: into the child that spans it, or else among the children by its place.
-/
def Node.insert (comment : Node) : Node → Node
  | .mk kind role start line text children =>
    .mk kind role start line text (insertAmong comment children)

/-- Put a comment among sibling nodes. -/
def insertAmong (comment : Node) : List Node → List Node
  | [] => [comment]
  | n :: rest =>
    if comment.start < n.start then comment :: n :: rest
    -- the comment lies in this child
    else if comment.start < n.stop then Node.insert comment n :: rest
    else n :: insertAmong comment rest

end

end Syntax
end RoleAudit
