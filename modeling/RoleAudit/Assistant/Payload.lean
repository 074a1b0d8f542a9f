import RoleAudit.Decimal.Numeral
import RoleAudit.Json.Parser
import RoleAudit.Json.Value
import RoleAudit.Text.Quoted

/-!
# Payloads of an assistant

The reply of a service is a table with the text under `content` and the counts under `usage`.
Replies are not trusted: each part that is missing or of another kind is a fault of its own.

- `CallError`: why a call gives no text;
- `Payload.read`: the parts of a reply. Whether the text is a text, and whether the counts can be
  counted, is only found out when they are used.
-/

namespace RoleAudit

def Json.kindName : Json → String
  | .null => "NoneType"
  | .bool _ => "bool"
  | .int _ => "int"
  | .float _ => "float"
  | .str _ => "str"
  | .arr _ => "list"
  | .obj _ => "dict"

/-- Why a call gives no text. -/
inductive CallError where
  /-- There is no service to call. -/
  | unavailable
  /-- The service fails. -/
  | failed (reason : String)
  /-- The reply cannot be read. -/
  | unreadable (error : Json.ReadError)
  /-- A table lacks a key. -/
  | missingKey (key : String)
  /-- A list lacks an item. -/
  | noItem
  /-- A text lacks a character. -/
  | noCharacter
  /-- A value of some kind has no parts. -/
  | noParts (kind : String)
  /-- A part is asked for by name in a list. -/
  | namedItem
  /-- A part is asked for by name in a text. -/
  | namedCharacter
  /-- A value of some kind lacks an operation. -/
  | noOperation (kind operation : String)
  /-- A count is of a kind that cannot be priced. -/
  | noCount (kind : String)
  /-- A count cannot be priced because it repeats. -/
  | repeatedCount
  /-- A count is too large to be priced. -/
  | tooLarge
  deriving DecidableEq, Repr

def CallError.message : CallError → String
  | unavailable => "No AI client available (Bedrock or Anthropic API)"
  | failed reason => reason
  | unreadable error => error.message
  | missingKey key => key
  | noItem => "list index out of range"
  | noCharacter => "string index out of range"
  | noParts kind => s!"'{kind}' object is not subscriptable"
  | namedItem => "list indices must be integers or slices, not str"
  | namedCharacter => "string indices must be integers, not 'str'"
  | noOperation kind operation => s!"'{kind}' object has no attribute '{operation}'"
  | noCount kind => s!"unsupported operand type(s) for *: '{kind}' and 'float'"
  | repeatedCount => "can't multiply sequence by non-int of type 'float'"
  | tooLarge => "int too large to convert to float"

/-- The parts of a reply, as they are. -/
structure Payload where
  text : Json
  input : Json
  output : Json

namespace Payload

/-- A part of a table by its name, or another value; only a table has parts with names. -/
def partOr (j : Json) (key : String) (other : Json) : Except CallError Json :=
  match j with
  | .obj _ => .ok ((j.get? key).getD other)
  | j => .error (.noOperation j.kindName "get")

/-- The first part of a value. -/
def firstPart : Json → Except CallError Json
  | .arr [] => .error .noItem
  | .arr (j :: _) => .ok j
  | .str s =>
    match s.toList with
    | [] => .error .noCharacter
    | c :: _ => .ok (.str (String.ofList [c]))
  | .obj _ => .error (.missingKey "0")
  | j => .error (.noParts j.kindName)

/-- The part of a value with a name. -/
def namedPart (key : String) (j : Json) : Except CallError Json :=
  match j with
  | .obj _ =>
    match j.get? key with
    | some v => .ok v
    | none => .error (.missingKey (Text.quoted key))
  | .arr _ => .error .namedItem
  | .str _ => .error .namedCharacter
  | j => .error (.noParts j.kindName)

def read (reply : String) : Except CallError Payload := do
  let j ← (Json.read reply).mapError .unreadable
  let usage ← partOr j "usage" (.obj [])
  let text ← namedPart "text" (← firstPart (← namedPart "content" j))
  let input ← partOr usage "input_tokens" (.int 0)
  let output ← partOr usage "output_tokens" (.int 0)
  return ⟨text, input, output⟩

/-- A count as a number that can be priced. -/
def count (j : Json) : Except CallError Int := do
  let n ←
    -- whether a count can be priced is found out by pricing it
    match j with
    | .int n => pure n
    | .bool b => pure (if b then 1 else 0)
    | .str _ => throw .repeatedCount
    | .arr _ => throw .repeatedCount
    | j => throw (.noCount j.kindName)
  if (Decimal.floatOfInt n).isInf then throw .tooLarge
  return n

end Payload

end RoleAudit
