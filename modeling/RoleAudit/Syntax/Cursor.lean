import RoleAudit.Syntax.Tree
import RoleAudit.Text.Blank
import RoleAudit.Text.Cut
import RoleAudit.Text.Hexadecimal

/-!
# Cursors

A place in a TypeScript source, always at the start of a token or at the end.

- `Cursor`: the text that is left, where it stands, and the comments passed so far;
- `Reader`: a step that moves a cursor or fails and leaves no trace;
- `symbol`, `keyword`, `word`, `stringLiteral`, `numberLiteral`, `regexLiteral`: single tokens;
- `spanning`: the node over what a step reads.
-/

namespace RoleAudit
namespace Syntax

/-- A place in a source, at the start of a token. -/
structure Cursor where
  rest : List Char
  place : Nat
  line : Nat
  left : Nat
  /-- The place after the last token. -/
  last : Nat
  /-- A line ended between the last token and here. -/
  fresh : Bool
  /-- The comments passed, the latest first. -/
  comments : List Node

/-- A step that reads from a source. -/
abbrev Reader (α : Type) := StateT Cursor Option α

/-- Blanks between tokens. -/
def isGap (c : Char) : Bool :=
  -- separators of data are blanks elsewhere, but not in a source
  (Text.isBlank c && !(28 ≤ c.toNat && c.toNat ≤ 31)) || c == '\uFEFF' || c == '\u2060' ||
    c == '\u200B'

/-- Characters that end a comment of one line. -/
def endsLine (c : Char) : Bool :=
  c == '\n' || c == '\r' || c == '\u2028' || c == '\u2029'

/-- Characters after which a statement may end without a sign. -/
def breaksLine (c : Char) : Bool :=
  c == '\n' || c == '\u2028' || c == '\u2029'

def isWordChar (c : Char) : Bool :=
  !(c.toNat < 0x20 || isGap c || ":;`\"'@#.,|^&<=>+-*/%?!~()[]\x7b\x7d".toList.contains c)

def isWordStart (c : Char) : Bool :=
  isWordChar c && !c.isDigit

/-- The length of a character's number in braces, with the letter before it, after a backslash. -/
def escapeLength : List Char → Nat
  | 'u' :: '\x7b' :: cs =>
    let count := (cs.takeWhile Text.isHexDigit).length
    match cs.drop count with
    | '\x7d' :: _ => if count == 0 then 0 else count + 3
    | _ => 0
  | _ => 0

/--
The length of a word at the start of a text, of which some characters are known to belong to it. A
character may be written as its number.
-/
def wordLength : (known : Nat) → List Char → Nat
  | _, [] => 0
  | known + 1, _ :: cs => wordLength known cs + 1
  | 0, c :: cs =>
    if isWordChar c then wordLength (if c == '\\' then escapeLength cs else 0) cs + 1 else 0

def Cursor.advance (c : Cursor) : Nat → Cursor
  | 0 => c
  | n + 1 =>
    match c.rest with
    | [] => c
    | ch :: rest =>
      Cursor.advance
        { c with
          rest := rest
          place := c.place + 1
          line := if ch == '\n' then c.line + 1 else c.line
          left := c.left - 1
          fresh := c.fresh || breaksLine ch } n

/-- The length of a block comment, after its opening. -/
def blockLength : Nat → List Char → Nat
  | n, [] => n
  | n, '*' :: '/' :: _ => n + 2
  | n, _ :: cs => blockLength (n + 1) cs

def Cursor.passComment (c : Cursor) (length : Nat) : Cursor :=
  let comment : Node :=
    .mk .comment .none c.place c.line (String.ofList (c.rest.take length)) []
  let next := c.advance length
  { next with comments := comment :: c.comments }

/-- Pass blanks and comments. -/
def Cursor.skip : Nat → Cursor → Cursor
  | 0, c => c
  | fuel + 1, c =>
    match c.rest with
    | '/' :: '/' :: cs =>
      Cursor.skip fuel (c.passComment (2 + (cs.takeWhile fun d => !endsLine d).length))
    | '/' :: '*' :: cs => Cursor.skip fuel (c.passComment (2 + blockLength 0 cs))
    | d :: _ => if isGap d then Cursor.skip fuel (c.advance 1) else c
    | [] => c

/-- Move over a token of some length and to the next one. -/
def Cursor.take (c : Cursor) (length : Nat) : Cursor :=
  -- what counts as fresh is what is passed after the token
  let stop := { c with fresh := false }.advance length
  Cursor.skip (stop.left + 1) { stop with last := stop.place, fresh := false }

/-- The first token of a source; a first line for the system is passed. -/
def Cursor.ofSource (source : List Char) : Cursor :=
  let whole : Cursor := ⟨source, 0, 0, source.length, 0, true, []⟩
  let start :=
    match source with
    | '#' :: '!' :: _ => whole.advance (source.takeWhile fun d => !endsLine d).length
    | _ => whole
  Cursor.skip (start.left + 1) start

/-! ## Looking and testing -/

def peek : Reader (Option Char) := do
  return (← get).rest.head?

def looksAt (s : String) : Reader Bool := do
  return s.toList.isPrefixOf (← get).rest

/-- A line ended before the next token. -/
def onFreshLine : Reader Bool := do
  return (← get).fresh

def atEnd : Reader Bool := do
  return (← get).rest.isEmpty

/-- Go on only if a condition holds. -/
def require (condition : Bool) : Reader Unit :=
  if condition then pure () else failure

/-- The next word, or the empty text; nothing is read. -/
def peekWord : Reader String := do
  match (← get).rest with
  | [] => return ""
  | c :: cs =>
    if isWordStart c then return String.ofList ((c :: cs).take (wordLength 0 (c :: cs)))
    else return ""

/-- What a step would read, without reading it. -/
def ahead (r : Reader α) : Reader (Option α) := do
  let here ← get
  return (r.run here).map Prod.fst

def could (r : Reader α) : Reader Bool := do
  return (← ahead r).isSome

/-! ## Tokens -/

def symbol (s : String) : Reader Unit := do
  if ← looksAt s then modify fun c => c.take s.length else failure

def word : Reader String := do
  let w ← peekWord
  if w.isEmpty then failure
  modify fun c => c.take w.length
  return w

def keyword (w : String) : Reader Unit := do
  if (← peekWord) == w then modify fun c => c.take w.length else failure

/-- Make a step if it can be made; tells whether it was. -/
def tried (r : Reader α) : Reader Bool :=
  (do let _ ← r; return true) <|> return false

def maybe (r : Reader α) : Reader (Option α) :=
  (do return some (← r)) <|> return none

def repeated (r : Reader α) : Nat → Reader (List α)
  | 0 => return []
  | n + 1 => do
    match ← maybe r with
    | some a => return a :: (← repeated r n)
    | none => return []

/-- Repeat a step as long as it can be made. -/
def many (r : Reader α) : Reader (List α) := do
  repeated r ((← get).left + 1)

/-- The length of a string literal after its opening quote; an escape hides a quote. -/
def quotedLength (quote : Char) : Nat → List Char → Option Nat
  | _, [] => none
  | n, '\\' :: _ :: cs => quotedLength quote (n + 2) cs
  | n, c :: cs => if c == quote then some (n + 1) else quotedLength quote (n + 1) cs

/-- The length of the digits, letters and underscores at the front. -/
def runLength (cs : List Char) : Nat :=
  (cs.takeWhile fun c => c.isAlphanum || c == '_').length

def digitLength (cs : List Char) : Nat :=
  (cs.takeWhile fun c => c.isDigit || c == '_').length

def exponentLength (cs : List Char) : Nat :=
  match cs with
  -- without a digit the letter belongs to what follows
  | e :: sign :: d :: _ =>
    if e == 'e' || e == 'E' then
      if (sign == '+' || sign == '-') && d.isDigit then 2 + digitLength (cs.drop 2)
      else if sign.isDigit then 1 + digitLength (cs.drop 1)
      else 0
    else 0
  | [e, d] => if (e == 'e' || e == 'E') && d.isDigit then 2 else 0
  | _ => 0

def numberLength (cs : List Char) : Nat :=
  match cs with
  | '0' :: x :: _ =>
    -- hexadecimal, octal and binary numbers
    if x.isAlpha then runLength cs else decimalLength cs
  | _ => decimalLength cs
where
  /-- The length of a number in decimal notation. -/
  decimalLength (cs : List Char) : Nat :=
    let whole := digitLength cs
    let after := cs.drop whole
    let fraction :=
      match after with
      | '.' :: ds => if whole == 0 && digitLength ds == 0 then 0 else 1 + digitLength ds
      | _ => 0
    if whole + fraction == 0 then 0
    else
      let exponent := exponentLength (after.drop fraction)
      let big := if (after.drop (fraction + exponent)).head? == some 'n' then 1 else 0
      whole + fraction + exponent + big

/-- The length of a regular expression after its opening slash; a class hides a slash. -/
def regexLength : Bool → Nat → List Char → Option Nat
  | _, _, [] => none
  | inClass, n, '\\' :: _ :: cs => regexLength inClass (n + 2) cs
  | inClass, n, c :: cs =>
    if endsLine c then none
    else if c == '[' then regexLength true (n + 1) cs
    else if c == ']' then regexLength false (n + 1) cs
    else if c == '/' && !inClass then
      some (n + 1 + (cs.takeWhile fun d => d.isAlpha).length)
    else regexLength inClass (n + 1) cs

/-- Read a token whose length is found from the text that is left. -/
def measured (length : List Char → Option Nat) : Reader Unit := do
  match length (← get).rest with
  | some (n + 1) => modify fun c => c.take (n + 1)
  | _ => failure

/-! ## Nodes -/

/-- The node over what was read since a cursor. -/
def nodeFrom (start : Cursor) (kind : Kind) (children : List Node) : Reader Node := do
  let here ← get
  return .mk kind .none start.place start.line
    (String.ofList (start.rest.take (here.last - start.place))) children

/-- The node over what a step reads, with the children that it gives. -/
def spanning (kind : Kind) (r : Reader (List Node)) : Reader Node := do
  let start ← get
  let children ← r
  nodeFrom start kind children

def leaf (kind : Kind) (r : Reader α) : Reader Node :=
  spanning kind do
    let _ ← r
    return []

def stringLiteral : Reader Node :=
  leaf .string <| measured fun
    | c :: cs => if c == '"' || c == '\'' then (quotedLength c 0 cs).map (· + 1) else none
    | [] => none

def numberLiteral : Reader Node :=
  leaf .other <| measured fun cs => some (numberLength cs)

def regexLiteral : Reader Node :=
  leaf .other <| measured fun
    | '/' :: cs => (regexLength false 0 cs).map (· + 1)
    | _ => none

def privateName : Reader Node :=
  leaf .other <| measured fun
    | '#' :: cs =>
      let n := wordLength 0 cs
      if n == 0 then none else some (n + 1)
    | _ => none

def wordNode : Reader Node :=
  leaf .other word

end Syntax
end RoleAudit
