import RoleAudit.Text.Class
import RoleAudit.Text.Cut
import RoleAudit.Text.Encoding
import RoleAudit.Text.Hexadecimal

/-!
# Quoted text

How a text is shown inside a message: between quotes, with everything unprintable escaped.

- `quoted`: single quotes, or double ones for a text that holds a single quote and no double one;
- `quotedBytes`: the same for a string of octets, marked by a leading `b`.
-/

namespace RoleAudit
namespace Text

/-- The quote that a text is shown in. -/
def quoteFor (cs : List Char) : Char :=
  if cs.contains '\'' && !cs.contains '"' then '"' else '\''

/-- A character as it stands between the given quotes. -/
def escaped (quote c : Char) : List Char :=
  if c == quote || c == '\\' then ['\\', c]
  else if c == '\t' then ['\\', 't']
  else if c == '\n' then ['\\', 'n']
  else if c == '\r' then ['\\', 'r']
  else if isPrintable c then [c]
  else if c.toNat ≤ 0xff then '\\' :: 'x' :: hexDigits 2 c.toNat
  else if c.toNat ≤ 0xffff then '\\' :: 'u' :: hexDigits 4 c.toNat
  else '\\' :: 'U' :: hexDigits 8 c.toNat

def quoted (s : String) : String :=
  let cs := s.toList
  let quote := quoteFor cs
  String.ofList (quote :: cs.flatMap (escaped quote) ++ [quote])

/-- An octet as it stands between the given quotes; all beyond ASCII is escaped. -/
def escapedByte (quote : Char) (b : UInt8) : List Char :=
  let c := Char.ofNat b.toNat
  if b.toNat < 0x80 then escaped quote c else '\\' :: 'x' :: hexDigits 2 b.toNat

def quotedBytes (bytes : List UInt8) : String :=
  let quote := quoteFor (bytes.map fun b => Char.ofNat b.toNat)
  String.ofList ('b' :: quote :: bytes.flatMap (escapedByte quote) ++ [quote])

/-- Quoted texts in square brackets. -/
def quotedList (texts : List String) : String :=
  "[" ++ joinWith ", " (texts.map quoted) ++ "]"

/-- A problem in octets that were to be UTF-8, in words. -/
def Utf8Problem.message (p : Utf8Problem) : String :=
  let what :=
    -- one octet is shown, several are only placed
    if p.span == 1 then
      "byte 0x" ++ String.ofList (hexDigits 2 p.octet) ++ s!" in position {p.place}"
    else s!"bytes in position {p.place}-{p.place + p.span - 1}"
  "'utf-8' codec can't decode " ++ what ++ ": " ++ p.cause.reason

end Text
end RoleAudit
