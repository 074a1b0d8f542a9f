import RoleAudit.Text.Encoding
import RoleAudit.Yaml.Scalar

/-!
# Tokens of a YAML text

- `Token`: the signs of a text, where the indentation has become explicit: a collection by
  indentation begins with `blockSequence` or `blockMapping` and ends with `blockEnd`, and every key
  of a mapping has a `key` before it;
- `Token.scan`: the tokens of a text, up to its end or its first fault.

A key without a sign of its own is only known by the colon after it. So the place of the latest node
that may be a key is kept for each level of brackets, and the colon puts the token before it.
-/

namespace RoleAudit
namespace Yaml

/-- A line that begins with a percent sign. -/
inductive Directive where
  | version (major : Nat)
  | tag (handle name : String)
  | other
  deriving DecidableEq, Repr

/-- The signs of a text. -/
inductive Token where
  | directive (d : Directive)
  | documentStart
  | documentEnd
  | blockSequence
  | blockMapping
  | blockEnd
  | openList
  | closeList
  | openTable
  | closeTable
  /-- The dash before an item. -/
  | entry
  | comma
  | key
  | value
  | reference (name : String)
  | anchor (name : String)
  /-- A tag: the handle, if it has one, and what follows. -/
  | tag (handle : Option String) (suffix : String)
  | scalar (text : String) (isPlain : Bool)
  /-- The text is no YAML from here on. -/
  | broken (f : Fault)
  deriving DecidableEq, Repr

/-! ## Names -/

def isNameChar (c : Char) : Bool :=
  c.isAlphanum || c == '-' || c == '_'

def isTagChar (c : Char) : Bool :=
  c.isAlphanum || "-;/?:@&=+$,_.!~*'()[]".toList.contains c

def name (c : Cursor) : Except Fault (String × Cursor) :=
  match c.run isNameChar with
  | [] => .error .malformed
  | cs => .ok (String.ofList cs, c.advance cs.length)

/-- An anchor or an alias, from its sign on. -/
def anchorName (c : Cursor) : Except Fault (String × Cursor) := do
  let (text, c) ← name c.next
  if endsWord c.head? || c.head?.any "?:,]\x7d%@".toList.contains || c.head? == some '\x60' then
    return (text, c)
  else throw .malformed

/-- Octets written with percent signs, as many as follow each other. -/
def percentOctets : Nat → Cursor → Except Fault (List UInt8 × Cursor)
  | 0, c => .ok ([], c)
  | fuel + 1, c =>
    if c.head? == some '%' then
      match hexNumber? 2 c.next.rest with
      | none => .error .malformed
      | some n => do
        let (more, c) ← percentOctets fuel (c.advance 3)
        return (UInt8.ofNat n :: more, c)
    else .ok ([], c)

def tagRest : Nat → Cursor → Except Fault (List Char × Cursor)
  | 0, c => .ok ([], c)
  | fuel + 1, c =>
    if c.head? == some '%' then do
      let (octets, c) ← percentOctets fuel c
      match Text.decodeUtf8? octets with
      | none => throw .malformed
      | some cs =>
        let (more, c) ← tagRest fuel c
        return (cs ++ more, c)
    else
      match c.run isTagChar with
      | [] => .ok ([], c)
      | cs => do
        let (more, c) ← tagRest fuel (c.advance cs.length)
        return (cs ++ more, c)

/-- The characters of a tag; there must be some. -/
def tagText (c : Cursor) : Except Fault (String × Cursor) := do
  let (cs, after) ← tagRest (c.rest.length + 1) c
  if after.index == c.index then throw .malformed
  return (String.ofList cs, after)

/-- The handle of a tag: a name between exclamation marks, or one mark. -/
def tagHandle (c : Cursor) : Except Fault (String × Cursor) :=
  if c.head? != some '!' then .error .malformed
  else if c.second? == some ' ' then .ok ("!", c.next)
  else
    let cs := c.next.run isNameChar
    let after := c.next.advance cs.length
    if after.head? == some '!' then .ok (String.ofList ('!' :: cs ++ ['!']), after.next)
    else .error .malformed

def tagToken (c : Cursor) : Except Fault (Token × Cursor) := do
  let (token, c) ←
    if c.second? == some '<' then do
      let (suffix, c) ← tagText (c.advance 2)
      if c.head? != some '>' then throw .malformed
      pure (Token.tag none suffix, c.next)
    else if endsWord c.second? then pure (Token.tag none "!", c.next)
    else
      let written := c.next.run fun ch => !(ch == ' ' || isBreak ch)
      let (handle, c) ← if written.contains '!' then tagHandle c else pure ("!", c.next)
      let (suffix, c) ← tagText c
      pure (Token.tag (some handle) suffix, c)
  if endsField c.head? then return (token, c) else throw .malformed

/-! ## Directives -/

def digits (c : Cursor) : Except Fault (Nat × Cursor) :=
  match c.run Char.isDigit with
  | [] => .error .malformed
  | ds => .ok (ds.foldl (fun n d => n * 10 + (d.toNat - 48)) 0, c.advance ds.length)

def directiveValue (named : String) (c : Cursor) : Except Fault (Directive × Cursor) := do
  if named == "YAML" then
    let (major, c) ← digits c.skipBlanks
    if c.head? != some '.' then throw .malformed
    let (_, c) ← digits c.next
    if endsField c.head? then return (.version major, c) else throw .malformed
  else if named == "TAG" then
    let (handle, c) ← tagHandle c.skipBlanks
    if c.head? != some ' ' then throw .malformed
    let (meant, c) ← tagText c.skipBlanks
    if endsField c.head? then return (.tag handle meant, c) else throw .malformed
  else return (.other, c.skipWhile fun ch => !isBreak ch)

def directive (c : Cursor) : Except Fault (Token × Cursor) := do
  let (named, c) ← name c.next
  if !endsField c.head? then throw .malformed
  let (d, c) ← directiveValue named c
  let c := c.skipBlanks.skipComment
  if !endsLine c.head? then throw .malformed
  return (.directive d, ((c.takeBreak?).map (·.2)).getD c)

/-! ## The scanner -/

/-- A node that may turn out to be a key. -/
structure Candidate where
  place : Nat
  /-- Nothing but a key can stand there. -/
  required : Bool
  index : Nat
  line : Nat
  column : Nat

/-- How far a scan has come. -/
structure Scanner where
  cursor : Cursor
  brackets : Nat
  /-- The columns where the open collections by indentation begin, the innermost first. -/
  columns : List Nat
  keyAllowed : Bool
  /-- The possible keys by the number of brackets around them. -/
  candidates : List (Nat × Candidate)
  tokens : List Token

namespace Scanner

def start (s : String) : Scanner :=
  let c := Cursor.start s
  ⟨if c.head? == some '\uFEFF' then c.next else c, 0, [], true, [], []⟩

/-- The least column of text that belongs to the innermost collection by indentation. -/
def least (s : Scanner) : Nat :=
  match s.columns with
  | [] => 0
  | column :: _ => column + 1

/-- Add a token and move on. -/
def push (s : Scanner) (t : Token) (cursor : Cursor) : Scanner :=
  { s with tokens := t :: s.tokens, cursor := cursor }

/-- Put a token after the first ones. -/
def insertAt (s : Scanner) (place : Nat) (t : Token) : Scanner :=
  -- the tokens are held backwards, so a place counts from the other end
  let later := s.tokens.length - place
  { s with tokens := s.tokens.take later ++ t :: s.tokens.drop later }

/-- Allow or forbid a key. -/
def allowKey (allowed : Bool) (s : Scanner) : Scanner :=
  { s with keyAllowed := allowed }

/-- Forget the candidates that cannot be keys any more; a required one must not be among them. -/
def dropStale (s : Scanner) : Except Fault Scanner :=
  -- a key stands on one line with its colon, and not too far from it
  let isStale (k : Candidate) : Bool :=
    k.line != s.cursor.line || 1024 < s.cursor.index - k.index
  if s.candidates.any fun (_, k) => isStale k && k.required then .error .malformed
  else .ok { s with candidates := s.candidates.filter fun (_, k) => !isStale k }

/-- Forget the candidate between the innermost brackets; it must not be required. -/
def dropCandidate (s : Scanner) : Except Fault Scanner :=
  if (s.candidates.lookup s.brackets).any Candidate.required then .error .malformed
  else .ok { s with candidates := s.candidates.filter fun (n, _) => n != s.brackets }

/-- Remember that a key may begin here. -/
def saveCandidate (s : Scanner) : Except Fault Scanner :=
  if s.keyAllowed then do
    let c := s.cursor
    -- at the column of a table only a key of it can stand
    let required := s.brackets == 0 && s.columns.head? == some c.column
    let s ← s.dropCandidate
    let k : Candidate := ⟨s.tokens.length, required, c.index, c.line, c.column⟩
    return { s with candidates := (s.brackets, k) :: s.candidates }
  else .ok s

/-- The columns up to a limit, and how many lie beyond it. -/
def unwound (limit : Nat) : List Nat → List Nat × Nat
  | [] => ([], 0)
  | column :: rest =>
    if limit ≤ column then
      let (kept, n) := unwound limit rest
      (kept, n + 1)
    else (column :: rest, 0)

/-- End the collections by indentation that begin at a column or after it. -/
def unwind (limit : Nat) (s : Scanner) : Scanner :=
  if s.brackets == 0 then
    let (kept, n) := unwound limit s.columns
    { s with columns := kept, tokens := List.replicate n Token.blockEnd ++ s.tokens }
  else s

/-- A collection by indentation begins at a column. -/
def opens (s : Scanner) (column : Nat) : Bool :=
  s.brackets == 0 && s.least ≤ column

def openAt (s : Scanner) (column place : Nat) (t : Token) : Scanner :=
  if s.opens column then { s.insertAt place t with columns := column :: s.columns } else s

/-- Move over blanks, comments and the ends of lines. -/
def skipGaps : Nat → Scanner → Scanner
  | 0, s => s
  | fuel + 1, s =>
    match s.cursor.skipBlanks.skipComment.takeBreak? with
    | none => { s with cursor := s.cursor.skipBlanks.skipComment }
    | some (_, c) =>
      skipGaps fuel { s with cursor := c, keyAllowed := s.keyAllowed || s.brackets == 0 }

/-- A sign that begins or ends a document. -/
def markDocument (s : Scanner) (t : Token) : Except Fault Scanner := do
  let s ← (s.unwind 0).dropCandidate
  return (s.push t (s.cursor.advance 3)).allowKey false

def openBracket (s : Scanner) (t : Token) : Except Fault Scanner := do
  let s ← s.saveCandidate
  return { (s.push t s.cursor.next).allowKey true with brackets := s.brackets + 1 }

def closeBracket (s : Scanner) (t : Token) : Except Fault Scanner := do
  let s ← s.dropCandidate
  return { (s.push t s.cursor.next).allowKey false with brackets := s.brackets - 1 }

def comma (s : Scanner) : Except Fault Scanner := do
  let s ← s.dropCandidate
  return (s.push .comma s.cursor.next).allowKey true

/-- A sign that begins an item or a key, and the collection that it belongs to. -/
def beginItem (s : Scanner) (collection t : Token) (keyAllowed : Bool) : Except Fault Scanner := do
  if s.brackets == 0 && !s.keyAllowed then throw .malformed
  let s ← (s.openAt s.cursor.column s.tokens.length collection).dropCandidate
  return (s.push t s.cursor.next).allowKey keyAllowed

/-- The colon after a key. -/
def colon (s : Scanner) : Except Fault Scanner :=
  match s.candidates.lookup s.brackets with
  | some k =>
    let s := { s with candidates := s.candidates.filter fun (n, _) => n != s.brackets }
    -- the key was read before it was known to be one
    let s := (s.insertAt k.place .key).openAt k.column k.place .blockMapping
    .ok ((s.push .value s.cursor.next).allowKey false)
  -- without a candidate the key is empty, or had a sign of its own
  | none => s.beginItem .blockMapping .value (s.brackets == 0)

/-- A node on one place: an alias, an anchor, a tag, or quoted text. -/
def simpleNode (s : Scanner) (read : Cursor → Except Fault (Token × Cursor)) :
    Except Fault Scanner := do
  let s ← s.saveCandidate
  let (t, c) ← read s.cursor
  return (s.push t c).allowKey false

def plainNode (s : Scanner) : Except Fault Scanner := do
  let s ← s.saveCandidate
  let (text, broke, c) := plain (s.brackets != 0) s.least s.cursor
  return (s.push (.scalar text true) c).allowKey broke

def blockNode (s : Scanner) (folds : Bool) : Except Fault Scanner := do
  let s ← s.dropCandidate
  let (text, c) ← blockText folds (max s.least 1) s.cursor.next
  return (s.push (.scalar text false) c).allowKey true

/-- Characters that cannot begin plain text. -/
def reserved : List Char :=
  "-?:,[]\x7b\x7d#&*!|>'\"%@\x60".toList

/-- Plain text begins with a character before another one. -/
def beginsPlain (inFlow : Bool) (ch : Char) (second : Option Char) : Bool :=
  !(isGap ch || reserved.contains ch) ||
    (!endsWord second && (ch == '-' || (!inFlow && (ch == '?' || ch == ':'))))

def token (s : Scanner) (ch : Char) : Except Fault Scanner :=
  let c := s.cursor
  let inFlow := s.brackets != 0
  let alone := endsWord c.second?
  if c.column == 0 && ch == '%' then do
    let s ← (s.unwind 0).dropCandidate
    let (t, c) ← directive c
    return (s.push t c).allowKey false
  else if c.column == 0 && c.atSigns '-' then s.markDocument .documentStart
  else if c.column == 0 && c.atSigns '.' then s.markDocument .documentEnd
  else if ch == '[' then s.openBracket .openList
  else if ch == '\x7b' then s.openBracket .openTable
  else if ch == ']' then s.closeBracket .closeList
  else if ch == '\x7d' then s.closeBracket .closeTable
  else if ch == ',' then s.comma
  else if ch == '-' && alone then s.beginItem .blockSequence .entry true
  else if ch == '?' && (inFlow || alone) then s.beginItem .blockMapping .key !inFlow
  else if ch == ':' && (inFlow || alone) then s.colon
  else if ch == '*' then
    s.simpleNode fun c => (anchorName c).map fun (n, c) => (Token.reference n, c)
  else if ch == '&' then
    s.simpleNode fun c => (anchorName c).map fun (n, c) => (Token.anchor n, c)
  else if ch == '!' then s.simpleNode tagToken
  else if ch == '|' && !inFlow then s.blockNode false
  else if ch == '>' && !inFlow then s.blockNode true
  else if ch == '\'' || ch == '"' then
    s.simpleNode fun c => (quoted ch c).map fun (text, c) => (Token.scalar text false, c)
  else if beginsPlain inFlow ch c.second? then s.plainNode
  else .error .malformed

/-- Scan one token, or nothing at the end of the text; the flag tells that the text has ended. -/
def step (s : Scanner) : Except Fault (Scanner × Bool) := do
  let s ← (s.skipGaps (s.cursor.rest.length + 1)).dropStale
  -- what is less indented than a collection ends it
  let s := s.unwind (s.cursor.column + 1)
  match s.cursor.head? with
  | none => return (← (s.unwind 0).dropCandidate, true)
  | some ch => return (← s.token ch, false)

/-- All tokens from here on, after the ones so far. -/
def run : Nat → Scanner → List Token
  | 0, s => (Token.broken .malformed :: s.tokens).reverse
  | fuel + 1, s =>
    match s.step with
    | .error f => (Token.broken f :: s.tokens).reverse
    | .ok (s, true) => s.tokens.reverse
    | .ok (s, false) => run fuel s

end Scanner

/-- Characters that a text may hold. -/
def isAllowed (c : Char) : Bool :=
  let n := c.toNat
  n == 0x09 || n == 0x0A || n == 0x0D || (0x20 ≤ n && n ≤ 0x7E) || n == 0x85 ||
    (0xA0 ≤ n && n ≤ 0xD7FF) || (0xE000 ≤ n && n ≤ 0xFFFD) || 0x10000 ≤ n

/-- The tokens of a text, up to its end or its first fault. -/
def Token.scan (s : String) : List Token :=
  if s.toList.all isAllowed then (Scanner.start s).run (s.length + 2)
  else [.broken .malformed]

end Yaml
end RoleAudit
