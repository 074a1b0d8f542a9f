/-!
# Places in a YAML text

- `Cursor`: the text from a place on, with the line and the column of the place;
- `advance`, `skipWhile`: the moves;
- `takeBreak?`: the end of a line, in one of its written forms;
- `atMarker`: a line that begins or ends a document.
-/

namespace RoleAudit
namespace Yaml

def isBreak (c : Char) : Bool :=
  c == '\n' || c == '\r' || c == '\u0085' || c == '\u2028' || c == '\u2029'

/-- Characters that end a word: blanks, tabs and the ends of lines. -/
def isGap (c : Char) : Bool :=
  c == ' ' || c == '\t' || isBreak c

/-- A word ends before this, the end of the text included. -/
def endsWord (c : Option Char) : Bool :=
  c.all isGap

def endsLine (c : Option Char) : Bool :=
  c.all isBreak

/-- A line ends before this, or a blank follows. -/
def endsField (c : Option Char) : Bool :=
  c.all fun c => c == ' ' || isBreak c

/-- A place in a text. -/
structure Cursor where
  rest : List Char
  index : Nat
  line : Nat
  /-- The number of characters before on the line; a byte order mark does not count. -/
  column : Nat
  deriving DecidableEq, Repr

namespace Cursor

def start (s : String) : Cursor :=
  ⟨s.toList, 0, 0, 0⟩

def head? (c : Cursor) : Option Char :=
  c.rest.head?

def second? (c : Cursor) : Option Char :=
  c.rest.tail.head?

def next (c : Cursor) : Cursor :=
  match c.rest with
  | [] => c
  | ch :: rest =>
    -- a carriage return before a line feed leaves the end of the line to it
    if isBreak ch && !(ch == '\r' && rest.head? == some '\n') then
      ⟨rest, c.index + 1, c.line + 1, 0⟩
    else if ch == '\uFEFF' then ⟨rest, c.index + 1, c.line, c.column⟩
    else ⟨rest, c.index + 1, c.line, c.column + 1⟩

def advance (c : Cursor) : Nat → Cursor
  | 0 => c
  | n + 1 => advance c.next n

/-- The characters of a class from a place on. -/
def run (p : Char → Bool) (c : Cursor) : List Char :=
  c.rest.takeWhile p

/-- The place after the characters of a class. -/
def skipWhile (p : Char → Bool) (c : Cursor) : Cursor :=
  c.advance (c.run p).length

def skipBlanks (c : Cursor) : Cursor :=
  c.skipWhile (· == ' ')

def skipComment (c : Cursor) : Cursor :=
  if c.head? == some '#' then c.skipWhile fun ch => !isBreak ch else c

def takeBreak? (c : Cursor) : Option (Char × Cursor) :=
  match c.rest with
  | '\r' :: '\n' :: _ => some ('\n', c.advance 2)
  | ch :: _ =>
    if ch == '\u2028' || ch == '\u2029' then some (ch, c.next)
    else if isBreak ch then some ('\n', c.next)
    else none
  | [] => none

/-- Three signs that stand for the start or the end of a document when they begin a line. -/
def atSigns (sign : Char) (c : Cursor) : Bool :=
  c.rest.take 3 == [sign, sign, sign] && endsWord (c.rest.drop 3).head?

/-- A line here begins or ends a document. -/
def atMarker (c : Cursor) : Bool :=
  c.atSigns '-' || c.atSigns '.'

end Cursor

end Yaml
end RoleAudit
