import RoleAudit.Syntax.Tree
import RoleAudit.Text.Cut

/-!
# Decorators

What a decorator says: its name, the values of its arguments, and the classes that it constructs.

- `valueText`: the value of an argument as far as it is written out;
- `Decorator.ofNode`: a decorator from its node;
- `Decorator.nearest?`: the last decorator with one of some names.
-/

namespace RoleAudit

open Syntax

/-- A decorator in a source. -/
structure Decorator where
  name : String
  /-- Where it starts. -/
  place : Nat
  /-- The values of its arguments; those of an array are counted one by one. -/
  arguments : List String
  /-- The classes constructed in its arguments. -/
  constructed : List String
  deriving DecidableEq, Repr

/-- The value of an argument: a text without quotes, the last name of a path, or the source text. -/
def valueText (n : Node) : String :=
  match n.kind with
  | .string => Text.dropLast (Text.dropFirst n.text 1) 1
  | .template => Text.dropLast (Text.dropFirst n.text 1) 1
  | .member => n.childText .property
  | _ => n.text

namespace Decorator

/-- The name of what a decorator applies. -/
def nameOf (target : Option Node) : String :=
  match target with
  | none => ""
  | some n => if n.kind == .member then n.childText .property else n.text

/-- The values that one argument gives. -/
def valuesOf (argument : Node) : List String :=
  match argument.kind with
  | .array => argument.children.map valueText
  -- a constructed class is kept apart, in `constructed`
  | .construction => []
  | _ => [valueText argument]

def classOf (construction : Node) : String :=
  construction.childText .constructor

/-- Keep a class that is named and not known yet. -/
def addClass (known : List String) (name : String) : List String :=
  if name.isEmpty || known.contains name then known else known ++ [name]

/-- The classes constructed in arguments: the direct ones, then those that lie deeper. -/
def constructedIn (arguments : Node) : List String :=
  -- the direct ones stand first, even unnamed or twice
  let direct := (arguments.children.filter fun a => a.kind == .construction).map classOf
  ((arguments.ofKind .construction).map classOf).foldl addClass direct

def ofNode (n : Node) : Decorator :=
  match n.children with
  | [] => ⟨"", n.start, [], []⟩
  | applied :: _ =>
    if applied.kind == .call then
      let name := nameOf (applied.child? .function)
      match applied.child? .arguments with
      | none => ⟨name, n.start, [], []⟩
      | some arguments =>
        ⟨name, n.start, arguments.children.flatMap valuesOf, constructedIn arguments⟩
    -- a decorator that is not called
    else ⟨nameOf (some applied), n.start, [], []⟩

/-- The later of two decorators, the first one if they start at one place. -/
def later (best d : Decorator) : Decorator :=
  if best.place < d.place then d else best

/-- The last decorator, by its place, with one of some names. -/
def nearest? (names : List String) (window : List Decorator) : Option Decorator :=
  match window.filter fun d => names.contains d.name with
  | [] => none
  | d :: rest => some (rest.foldl later d)

end Decorator

end RoleAudit
