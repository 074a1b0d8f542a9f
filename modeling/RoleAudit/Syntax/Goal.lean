import RoleAudit.Syntax.Cursor

/-!
# Goals

What a part of a source is read as, and readers that every rule uses.

- `Goal`: the parts of a source that contain each other;
- `Rules`: one reader for each goal; a rule gets the rules for the parts inside it as an argument,
  so that each rule is an ordinary definition and only the source reader ties the knot;
- `listed`, `enclosed`: lists between brackets;
- `group`, `template`: text whose inside is read as balanced signs, and template literals.
-/

namespace RoleAudit
namespace Syntax

/-- The parts of a source that contain each other. -/
inductive Goal where
  /-- One sign, or brackets with balanced signs between them. -/
  | group
  | type
  | typeArguments
  | typeParameters
  | pattern
  | parameters
  | decorator
  | template
  /-- An expression without commas; arrow functions may tell their type, or may not. -/
  | expression (typedArrows : Bool)
  | operand (typedArrows : Bool)
  | sequence
  | arguments
  | block
  | statement
  | classBody

/-- A reader for each goal. -/
abbrev Rules := Goal → Reader Node

/-- Read a sign that is not the beginning of one of the longer signs given. -/
def sign (s : String) (longer : List String) : Reader Unit := do
  for l in longer do
    if ← looksAt l then failure
  symbol s

/-- The next token can begin the name of a member. -/
def startsName : Reader Bool := do
  match ← peek with
  | some c => return isWordStart c || c.isDigit || "'\"[#".toList.contains c
  | none => return false

def listed (item : Reader Node) (close : String) : Reader (List Node) := do
  let items ← many do
    match ← maybe item with
    | some n =>
      symbol "," <|> (do require (← looksAt close))
      return [n]
    -- an empty place, as in `[a, , b]`
    | none =>
      symbol ","
      return []
  symbol close
  return items.flatten

def enclosed (item : Reader Node) (opening close : String) : Reader (List Node) := do
  symbol opening
  listed item close

def anySign : Reader Unit := do
  match ← peek with
  | some c =>
    require (!"()[]\x7b\x7d".toList.contains c)
    modify fun here => here.take 1
  | none => failure

def group (self : Rules) : Reader Node := spanning .other do
  if ← looksAt "(" then inside "(" ")"
  else if ← looksAt "[" then inside "[" "]"
  else if ← looksAt "\x7b" then inside "\x7b" "\x7d"
  else if ← looksAt "`" then return [← self .template]
  else
    let _ ← stringLiteral <|> numberLiteral <|> privateName <|> wordNode <|> leaf .other anySign
    return []
where
  /-- The pieces between two brackets. -/
  inside (opening close : String) : Reader (List Node) := do
    symbol opening
    let pieces ← many (self .group)
    symbol close
    return pieces

/-- The number of characters of a template literal before a sign that matters. -/
def plainLength (cs : List Char) : Nat :=
  (cs.takeWhile fun c => c != '`' && c != '\\' && c != '$').length

/-- Move over characters inside a template literal; blanks and comments there are text. -/
def passText (length : Nat) : Reader Unit :=
  modify fun c => c.advance length

/-- The expressions of a template literal, after its opening quote. -/
def templateParts (self : Rules) : Nat → Reader (List Node)
  | 0 => failure
  | steps + 1 => do
    passText (plainLength (← get).rest)
    if ← looksAt "`" then
      symbol "`"
      return []
    else if ← looksAt "$\x7b" then
      symbol "$\x7b"
      let inner ← self .sequence
      require (← looksAt "\x7d")
      passText 1
      return inner :: (← templateParts self steps)
    else if (← get).left == 0 then failure
    else
      -- an escape takes its sign along; a lone dollar is text
      passText (if ← looksAt "\\" then 2 else 1)
      templateParts self steps

def template (self : Rules) : Reader Node := spanning .template do
  require (← looksAt "`")
  passText 1
  templateParts self ((← get).left + 1)

end Syntax
end RoleAudit
