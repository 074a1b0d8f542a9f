import RoleAudit.Syntax.Statements

/-!
# Sources

The syntax tree of a whole source.

- `rule`: the rule for each goal;
- `reader`: the reader for each goal, with a bound on how deep goals may lie in each other;
- `Node.ofSource`: the tree of a source, with its comments put where they stand.
-/

namespace RoleAudit
namespace Syntax

/-- The rule for a goal, with readers for the goals inside it. -/
def rule (self : Rules) : Goal → Reader Node
  | .group => group self
  | .type => type self
  | .typeArguments => typeArguments self
  | .typeParameters => typeParameters self
  | .pattern => pattern self
  | .parameters => parameters self
  | .decorator => decorator self
  | .template => template self
  | .expression typed => expression self typed
  | .operand typed => operand self typed
  | .sequence => sequence self
  | .arguments => arguments self
  | .block => block self
  | .statement => statement self
  | .classBody => classBody self

/-- The reader for a goal, for goals that lie in each other to a depth. -/
def reader : Nat → Rules
  -- out of depth nothing is read, and the way fails as any other
  | 0 => fun _ => failure
  | depth + 1 => rule (reader depth)

def topLevel (depth : Nat) : Reader Node :=
  reader depth .statement <|> leaf .other (modify fun c => c.take 1 : Reader Unit)

def statements (depth : Nat) : Reader (List Node) := many do
  require (!(← atEnd))
  topLevel depth

def Node.ofSource (source : String) : Node :=
  let cs := source.toList
  let start := Cursor.ofSource cs
  let (children, stop) := ((statements (8 * cs.length + 16)).run start).getD ([], start)
  -- comments were passed between tokens; they are put in by their places, the first one first
  stop.comments.reverse.foldl (fun tree comment => Node.insert comment tree)
    (.mk .program .none 0 0 source children)

end Syntax
end RoleAudit
