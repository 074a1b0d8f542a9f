import RoleAudit.Text.Hexadecimal
import RoleAudit.Yaml.Cursor
import RoleAudit.Yaml.Fault

/-!
# The text of scalars

How the written forms of a scalar give its text:

- `quoted`: text between single or double quotes, with escapes between double ones;
- `plain`: text without quotes, over several lines;
- `blockText`: the lines below a header, as they are or folded.

Lines are folded in the same way everywhere: one end of a line is a blank, and each empty line after
it is the end of a line in the text.
-/

namespace RoleAudit
namespace Yaml

/-- The text that stands for the end of a line and the empty lines after it. -/
def folded (first : Char) (more : List Char) : List Char :=
  if first != '\n' then first :: more
  else if more.isEmpty then [' ']
  else more

/-! ## Quoted text -/

def escapes : List (Char × Char) :=
  [('0', '\x00'), ('a', '\x07'), ('b', '\x08'), ('t', '\t'), ('\t', '\t'), ('n', '\n'),
    ('v', '\x0b'), ('f', '\x0c'), ('r', '\r'), ('e', '\x1b'), (' ', ' '), ('"', '"'), ('\\', '\\'),
    ('/', '/'), ('N', '\u0085'), ('_', '\u00a0'), ('L', '\u2028'), ('P', '\u2029')]

/-- Escapes by number, and how many digits they take. -/
def numericEscapes : List (Char × Nat) :=
  [('x', 2), ('u', 4), ('U', 8)]

def hexNumber? (count : Nat) (cs : List Char) : Option Nat :=
  let digits := cs.take count
  if digits.length == count && digits.all Text.isHexDigit then some (Text.hexNumber digits)
  else none

def characterOf (code : Nat) : Except Fault Char :=
  if 0x110000 ≤ code then .error (.badCharacter code) else .ok (Char.ofNat code)

/--
The ends of lines from the start of a line on, with the blanks around them; no line may begin or end
a document.
-/
def quotedBreaks : Nat → Cursor → Except Fault (List Char × Cursor)
  | 0, _ => .error .malformed
  | fuel + 1, c =>
    if c.atMarker then .error .malformed
    else
      let c := c.skipWhile fun ch => ch == ' ' || ch == '\t'
      match c.takeBreak? with
      | none => .ok ([], c)
      | some (b, c) => do
        let (more, c) ← quotedBreaks fuel c
        return (b :: more, c)

/-- Blanks and ends of lines inside quoted text. -/
def quotedGap (fuel : Nat) (c : Cursor) : Except Fault (List Char × Cursor) :=
  let blanks := c.run fun ch => ch == ' ' || ch == '\t'
  let c := c.advance blanks.length
  match c.takeBreak? with
  | none => if c.rest.isEmpty then .error .malformed else .ok (blanks, c)
  | some (b, c) => do
    let (more, c) ← quotedBreaks fuel c
    return (folded b more, c)

/-- What an escape stands for, from after its backslash. -/
def escape (fuel : Nat) (c : Cursor) : Except Fault (List Char × Cursor) :=
  match c.head? with
  | none => .error .malformed
  | some ch =>
    match escapes.lookup ch with
    | some meant => .ok ([meant], c.next)
    | none =>
      match numericEscapes.lookup ch with
      | some count =>
        match hexNumber? count c.next.rest with
        | none => .error .malformed
        | some code => (characterOf code).map fun meant => ([meant], c.next.advance count)
      | none =>
        match c.takeBreak? with
        | some (_, c) => quotedBreaks fuel c
        | none => .error .malformed

def quotedRest (quote : Char) : Nat → Cursor → Except Fault (List Char × Cursor)
  | 0, _ => .error .malformed
  | fuel + 1, c =>
    match c.head? with
    | none => .error .malformed
    | some ch => do
      -- between single quotes a quote is written twice
      if ch == quote && !(quote == '\'' && c.second? == some '\'') then return ([], c.next)
      let (part, c) ←
        if ch == quote then Except.ok ([ch], c.advance 2)
        else if ch == '\\' && quote == '"' then escape fuel c.next
        else if isGap ch then quotedGap fuel c
        else Except.ok ([ch], c.next)
      let (more, c) ← quotedRest quote fuel c
      return (part ++ more, c)

def quoted (quote : Char) (c : Cursor) : Except Fault (String × Cursor) :=
  (quotedRest quote (c.rest.length + 1) c.next).map fun (cs, c) => (String.ofList cs, c)

/-! ## Plain text -/

def plainLength (inFlow : Bool) : List Char → Nat
  | [] => 0
  | ch :: cs =>
    let closes (c : Char) : Bool := inFlow && ",[]\x7b\x7d".toList.contains c
    -- a colon is text unless a gap or a closing sign follows
    if isGap ch || (ch == ':' && cs.head?.all fun c => isGap c || closes c) ||
      closes ch || (inFlow && ch == '?') then 0
    else plainLength inFlow cs + 1

/-- What follows a stretch of plain text. -/
structure PlainGap where
  /-- The text that it gives if plain text goes on; none if the text ends here. -/
  text : List Char
  /-- A line ended. -/
  broke : Bool
  cursor : Cursor

/-- The empty lines at the start of a line; nothing if a document begins or ends here. -/
def plainBreaks : Nat → Cursor → Option (List Char) × Cursor
  | 0, c => (some [], c)
  | fuel + 1, c =>
    if c.head? == some ' ' then plainBreaks fuel c.next
    else
      match c.takeBreak? with
      | none => (some [], c)
      | some (b, c) =>
        if c.atMarker then (none, c)
        else
          let (more, c) := plainBreaks fuel c
          (more.map (b :: ·), c)

/-- The gap after a stretch of plain text. -/
def plainGap (c : Cursor) : PlainGap :=
  let blanks := c.run (· == ' ')
  let c := c.advance blanks.length
  match c.takeBreak? with
  | none => ⟨blanks, false, c⟩
  | some (b, c) =>
    if c.atMarker then ⟨[], true, c⟩
    else
      match plainBreaks (c.rest.length + 1) c with
      | (some more, c) => ⟨folded b more, true, c⟩
      | (none, c) => ⟨[], true, c⟩

/-- Plain text and the place after it; the flag tells that a line ended after its last stretch. -/
def plainRest (inFlow : Bool) (least : Nat) : Nat → Cursor → List Char × Bool × Cursor
  | 0, c => ([], false, c)
  | fuel + 1, c =>
    let n := plainLength inFlow c.rest
    if n == 0 || c.head? == some '#' then ([], false, c)
    else
      let stretch := c.rest.take n
      let gap := plainGap (c.advance n)
      let here := gap.cursor
      if gap.text.isEmpty || here.head? == some '#' || (!inFlow && here.column < least) then
        (stretch, gap.broke, here)
      else
        match plainRest inFlow least fuel here with
        | ([], _, c) => (stretch, gap.broke, c)
        | (more, broke, c) => (stretch ++ gap.text ++ more, broke, c)

/--
Plain text whose lines have a least indentation; the flag tells that a line ended after it.
-/
def plain (inFlow : Bool) (least : Nat) (c : Cursor) : String × Bool × Cursor :=
  let (cs, broke, c) := plainRest inFlow least (c.rest.length + 1) c
  (String.ofList cs, broke, c)

/-! ## Block text -/

/-- What becomes of the ends of lines after the last line of a block. -/
inductive Chomping where
  | clip
  | strip
  | keep
  deriving DecidableEq, Repr

structure BlockHeader where
  chomping : Chomping
  indentation : Option Nat

def chompingOf? (c : Option Char) : Option Chomping :=
  match c with
  | some '+' => some .keep
  | some '-' => some .strip
  | _ => none

/-- The indentation that a digit states. -/
def indentationOf? (c : Option Char) : Option Nat :=
  c.bind fun ch => if ch.isDigit then some (ch.toNat - 48) else none

/-- The header of a block after its sign, and the place where its lines begin. -/
def blockHeader (c : Cursor) : Except Fault (BlockHeader × Cursor) := do
  -- the sign and the digit may come in either order
  let (header, c) : BlockHeader × Cursor :=
    match chompingOf? c.head? with
    | some chomping =>
      match indentationOf? c.second? with
      | some n => (⟨chomping, some n⟩, c.advance 2)
      | none => (⟨chomping, none⟩, c.next)
    | none =>
      match indentationOf? c.head? with
      | some n =>
        match chompingOf? c.second? with
        | some chomping => (⟨chomping, some n⟩, c.advance 2)
        | none => (⟨.clip, some n⟩, c.next)
      | none => (⟨.clip, none⟩, c)
  if header.indentation == some 0 || !endsField c.head? then throw .malformed
  let c := c.skipBlanks.skipComment
  if !endsLine c.head? then throw .malformed
  return (header, ((c.takeBreak?).map (·.2)).getD c)

/-- The empty lines before the first line of a block, and the deepest indentation seen. -/
def blockOpening : Nat → Nat → Cursor → List Char × Nat × Cursor
  | 0, deepest, c => ([], deepest, c)
  | fuel + 1, deepest, c =>
    if c.head? == some ' ' then
      let c := c.next
      blockOpening fuel (max deepest c.column) c
    else
      match c.takeBreak? with
      | none => ([], deepest, c)
      | some (b, c) =>
        let (more, deepest, c) := blockOpening fuel deepest c
        (b :: more, deepest, c)

/-- The place after the indentation of a line. -/
def skipIndentation (indentation : Nat) (c : Cursor) : Cursor :=
  c.advance (min (indentation - c.column) (c.run (· == ' ')).length)

/-- The empty lines in a block, and the place in the next line after its indentation. -/
def blockBreaks (indentation : Nat) : Nat → Cursor → List Char × Cursor
  | 0, c => ([], c)
  | fuel + 1, c =>
    let c := skipIndentation indentation c
    match c.takeBreak? with
    | none => ([], c)
    | some (b, c) =>
      let (more, c) := blockBreaks indentation fuel c
      (b :: more, c)

/-- A line goes on at a place: the indentation is reached, and the text has not ended. -/
def lineHere (indentation : Nat) (c : Cursor) : Bool :=
  c.column == indentation && !c.rest.isEmpty

def startsBlank (c : Option Char) : Bool :=
  c.any fun ch => ch == ' ' || ch == '\t'

/--
The lines of a block from a place on; the end of the last line and the empty lines after it are kept
apart.
-/
def blockLines (folds : Bool) (indentation : Nat) : Nat → Cursor →
    List Char × List Char × List Char × Cursor
  | 0, c => ([], [], [], c)
  | fuel + 1, c =>
    let blank := startsBlank c.head?
    let line := c.run fun ch => !isBreak ch
    let c := c.advance line.length
    let (ending, c) : List Char × Cursor :=
      match c.takeBreak? with
      | some (b, c) => ([b], c)
      | none => ([], c)
    let (breaks, c) := blockBreaks indentation (c.rest.length + 1) c
    if lineHere indentation c then
      -- only lines that do not begin with a blank are folded
      let between :=
        if folds && ending == ['\n'] && !blank && !startsBlank c.head? then
          if breaks.isEmpty then [' '] else breaks
        else ending ++ breaks
      let (more, ending, breaks, c) := blockLines folds indentation fuel c
      (line ++ between ++ more, ending, breaks, c)
    else (line, ending, breaks, c)

/-- The text that remains of the ends of lines after a block. -/
def chomped (chomping : Chomping) (ending breaks : List Char) : List Char :=
  match chomping with
  | .strip => []
  | .clip => ending
  | .keep => ending ++ breaks

/-- A block below a header, from after its sign, with a least indentation. -/
def blockText (folds : Bool) (least : Nat) (c : Cursor) : Except Fault (String × Cursor) := do
  let (header, c) ← blockHeader c
  let (indentation, breaks, c) : Nat × List Char × Cursor :=
    match header.indentation with
    | some n =>
      let indentation := least + n - 1
      let (breaks, c) := blockBreaks indentation (c.rest.length + 1) c
      (indentation, breaks, c)
    | none =>
      let (breaks, deepest, c) := blockOpening (c.rest.length + 1) 0 c
      -- without a stated indentation the first lines tell it
      (max least deepest, breaks, c)
  if lineHere indentation c then
    let (lines, ending, more, c) := blockLines folds indentation (c.rest.length + 1) c
    return (String.ofList (breaks ++ lines ++ chomped header.chomping ending more), c)
  else return (String.ofList (chomped header.chomping [] breaks), c)

end Yaml
end RoleAudit
