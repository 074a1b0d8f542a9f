import RoleAudit.Decimal.Shortest
import RoleAudit.Json.Value
import RoleAudit.Text.Cut
import RoleAudit.Text.Quoted

/-!
# Writing values

- `Json.compact`: on one line, with a blank after each comma and colon;
- `Json.pretty`: with two blanks of indentation for each level.

Everything beyond ASCII is escaped, characters beyond U+FFFF as two surrogates.
-/

namespace RoleAudit
namespace Json

open RoleAudit.Text

def unitEscape (n : Nat) : List Char :=
  '\\' :: 'u' :: hexDigits 4 n

/-- A character inside a written string. -/
def escape (c : Char) : List Char :=
  let n := c.toNat
  if c == '"' then ['\\', '"']
  else if c == '\\' then ['\\', '\\']
  else if c == '\n' then ['\\', 'n']
  else if c == '\r' then ['\\', 'r']
  else if c == '\t' then ['\\', 't']
  else if n == 8 then ['\\', 'b']
  else if n == 12 then ['\\', 'f']
  else if 0x20 ≤ n && n < 0x7f then [c]
  else if n ≤ 0xffff then unitEscape n
  -- outside the first plane a character is a pair of surrogates
  else unitEscape (0xd800 + (n - 0x10000) / 0x400) ++ unitEscape (0xdc00 + (n - 0x10000) % 0x400)

def quote (s : String) : String :=
  String.ofList ('"' :: s.toList.flatMap escape ++ ['"'])

def floatLiteral (x : Float) : String :=
  if x.isNaN then "NaN"
  else if x.isInf then (if Decimal.isNegative x then "-Infinity" else "Infinity")
  else Decimal.floatText x

def scalar : Json → String
  | .null => "null"
  | .bool true => "true"
  | .bool false => "false"
  | .int n => Decimal.intText n
  | .float x => floatLiteral x
  | .str s => quote s
  | .arr _ => "[]"
  | .obj _ => "\x7b\x7d"

mutual

/-- A value on one line. -/
def compact : Json → String
  | .arr (item :: items) => "[" ++ compact item ++ compactItems items ++ "]"
  | .obj ((key, value) :: entries) =>
    "\x7b" ++ quote key ++ ": " ++ compact value ++ compactEntries entries ++ "\x7d"
  | j => scalar j

/-- The items after the first one. -/
def compactItems : List Json → String
  | [] => ""
  | item :: items => ", " ++ compact item ++ compactItems items

/-- The entries after the first one. -/
def compactEntries : List (String × Json) → String
  | [] => ""
  | (key, value) :: entries =>
    ", " ++ quote key ++ ": " ++ compact value ++ compactEntries entries

end

/-- A line feed and the indentation of a level. -/
def newline (level : Nat) : String :=
  String.ofList ('\n' :: List.replicate (2 * level) ' ')

mutual

/-- A value at a level of indentation. -/
def prettyAt (level : Nat) : Json → String
  | .arr (item :: items) =>
    "[" ++ newline (level + 1) ++ prettyAt (level + 1) item ++ prettyItems (level + 1) items ++
      newline level ++ "]"
  | .obj ((key, value) :: entries) =>
    "\x7b" ++ newline (level + 1) ++ quote key ++ ": " ++ prettyAt (level + 1) value ++
      prettyEntries (level + 1) entries ++ newline level ++ "\x7d"
  | j => scalar j

/-- The items after the first one, each on its own line. -/
def prettyItems (level : Nat) : List Json → String
  | [] => ""
  | item :: items => "," ++ newline level ++ prettyAt level item ++ prettyItems level items

/-- The entries after the first one, each on its own line. -/
def prettyEntries (level : Nat) : List (String × Json) → String
  | [] => ""
  | (key, value) :: entries =>
    "," ++ newline level ++ quote key ++ ": " ++ prettyAt level value ++
      prettyEntries level entries

end

def pretty (j : Json) : String :=
  prettyAt 0 j

end Json
end RoleAudit
