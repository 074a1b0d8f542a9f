import RoleAudit.Decimal.Numeral
import RoleAudit.Text.Hexadecimal
import RoleAudit.Xml.Name

/-!
# Scanning markup

The pieces that a document is made of, each read from the front of a list of characters.

- `Scan`: what a scan found and what follows it, or the text from the first character that does not
  fit, or that the text ends too soon;
- `scanTag`, `scanEndTag`, `scanReference`, `scanComment`, `scanInstruction`: the parts of content;
- `scanProlog`: what stands before and after the root element.
-/

namespace RoleAudit
namespace Xml

/-- The outcome of scanning one piece. -/
inductive Scan (α : Type) where
  | found (value : α) (rest : List Char)
  | bad (rest : List Char)
  | short

namespace Scan

/-- Go on after a piece. -/
def andThen (s : Scan α) (next : α → List Char → Scan β) : Scan β :=
  match s with
  | found value rest => next value rest
  | bad rest => bad rest
  | short => short

def map (f : α → β) (s : Scan α) : Scan β :=
  s.andThen fun value rest => found (f value) rest

end Scan

def skipBlanks (cs : List Char) : List Char :=
  cs.dropWhile isXmlBlank

def scanName : List Char → Scan (List Char)
  | [] => .short
  | c :: cs =>
    if isNameStart c then .found (c :: cs.takeWhile isNameChar) (cs.dropWhile isNameChar)
    else .bad (c :: cs)

/-- A name, possibly with a qualifier and a colon before it. -/
def scanQualified (cs : List Char) : Scan (List Char) :=
  (scanName cs).andThen fun first rest =>
    match rest with
    | ':' :: rest => (scanName rest).map fun second => first ++ ':' :: second
    | rest => .found first rest

/-- The next character has to be the given one. -/
def expect (c : Char) : List Char → Scan Unit
  | [] => .short
  | d :: cs => if d == c then .found () cs else .bad (d :: cs)

/-! ## References -/

/-- A reference to a character by number or to an entity by name. -/
inductive Reference where
  | number (n : Nat)
  | entity (name : List Char)

def scanNumber (isDigit : Char → Bool) (value : List Char → Nat) (cs : List Char) :
    Scan Reference :=
  match cs with
  | [] => .short
  | c :: _ =>
    if isDigit c then
      (expect ';' (cs.dropWhile isDigit)).map fun _ => .number (value (cs.takeWhile isDigit))
    else .bad cs

def scanReference : List Char → Scan Reference
  | '#' :: 'x' :: cs => scanNumber Text.isHexDigit Text.hexNumber cs
  | '#' :: cs => scanNumber Char.isDigit Decimal.digitsValue cs
  | cs =>
    (scanName cs).andThen fun name rest => (expect ';' rest).map fun _ => .entity name

def predefined (name : List Char) : Option Char :=
  [("lt", '<'), ("gt", '>'), ("amp", '&'), ("quot", '"'), ("apos", '\'')].lookup
    (String.ofList name)

def isReferable (n : Nat) : Bool :=
  n < 0x110000 && !(0xd800 ≤ n && n ≤ 0xdfff) && isXmlChar (Char.ofNat n)

/-! ## Tags -/

/-- One piece of an attribute's value; a reference keeps the text that it starts. -/
inductive ValuePart where
  | char (c : Char)
  | reference (r : Reference) (start : List Char)

/-- An attribute as it is written; it keeps the text that it starts. -/
structure RawAttribute where
  name : List Char
  value : List ValuePart
  start : List Char

/-- A start tag as it is written. -/
structure RawTag where
  name : List Char
  attributes : List RawAttribute
  /-- The tag ends its element as well. -/
  closed : Bool

def scanValue (quote : Char) : Nat → List ValuePart → List Char → Scan (List ValuePart)
  | 0, _, _ => .short
  | _ + 1, _, [] => .short
  | fuel + 1, done, c :: cs =>
    if c == quote then .found done.reverse cs
    else if c == '<' then .bad (c :: cs)
    else if c == '&' then
      (scanReference cs).andThen fun r rest =>
        scanValue quote fuel (.reference r (c :: cs) :: done) rest
    else scanValue quote fuel (.char c :: done) cs

def scanAttribute (cs : List Char) : Scan RawAttribute :=
  (scanQualified cs).andThen fun name rest =>
    (expect '=' (skipBlanks rest)).andThen fun _ rest =>
      match skipBlanks rest with
      | [] => .short
      | c :: rest =>
        if c == '"' || c == '\'' then
          (scanValue c (rest.length + 1) [] rest).map fun value => ⟨name, value, cs⟩
        else .bad (c :: rest)

def scanTagRest (name : List Char) : Nat → List RawAttribute → List Char → Scan RawTag
  | 0, _, _ => .short
  | fuel + 1, done, cs =>
    match cs with
    | [] => .short
    | first :: _ =>
      match skipBlanks cs with
      | [] => .short
      | '>' :: rest => .found ⟨name, done.reverse, false⟩ rest
      | '/' :: rest => (expect '>' rest).map fun _ => ⟨name, done.reverse, true⟩
      | rest =>
        -- an attribute needs a blank before it
        if isXmlBlank first then
          (scanAttribute rest).andThen fun a rest => scanTagRest name fuel (a :: done) rest
        else .bad rest

def scanTag (cs : List Char) : Scan RawTag :=
  (scanQualified cs).andThen fun name rest => scanTagRest name (rest.length + 1) [] rest

def scanEndTag (cs : List Char) : Scan (List Char) :=
  match cs with
  | [] => .short
  | c :: _ =>
    if isNameStart c then
      let inName (d : Char) : Bool := isNameChar d || d == ':'
      (expect '>' (skipBlanks (cs.dropWhile inName))).map fun _ => cs.takeWhile inName
    else .bad cs

/-! ## Comments and processing instructions -/

def scanCommentRest : List Char → Scan Unit
  | [] => .short
  -- two hyphens end a comment, so nothing else may follow them
  | '-' :: '-' :: cs => expect '>' cs
  | _ :: cs => scanCommentRest cs

def scanComment (cs : List Char) : Scan Unit :=
  (expect '-' cs).andThen fun _ rest => scanCommentRest rest

def scanInstructionRest : List Char → Scan Unit
  | [] => .short
  | '?' :: '>' :: cs => .found () cs
  | _ :: cs => scanInstructionRest cs

/-- What an instruction is, by its target: `true` for the declaration of a document. -/
def targetKind? (target : List Char) : Option Bool :=
  match target with
  | [x, m, l] =>
    if x.toLower == 'x' && m.toLower == 'm' && l.toLower == 'l' then
      -- with capitals the target is reserved
      if target == ['x', 'm', 'l'] then some true else none
    else some false
  | _ => some false

/-- An instruction, after its question mark; tells whether it declares a document. -/
def scanInstruction (cs : List Char) : Scan Bool :=
  (scanName cs).andThen fun target rest =>
    match rest with
    | [] => .short
    | c :: after =>
      if isXmlBlank c then
        match targetKind? target with
        | some kind => (scanInstructionRest after).map fun _ => kind
        | none => .bad rest
      else if c == '?' then
        match targetKind? target with
        | some kind => (expect '>' after).map fun _ => kind
        | none => .bad rest
      else .bad rest

/-! ## Before and after the root element -/

/-- A piece of what stands outside the root element. -/
inductive Misc where
  | blank
  | comment
  | instruction
  | declaration
  | markup (keyword : List Char)
  | element
  | name (text : List Char)
  | literal (text : List Char)
  | openBracket
  | close
  | parameterReference
  | punctuation
  /-- Any other word; like a name and a literal it may go on where the text ends. -/
  | token

/-- More characters could belong to the piece. -/
def Misc.mayGoOn : Misc → Bool
  | .name _ => true
  | .literal _ => true
  | .token => true
  | _ => false

/-- A markup declaration, after its exclamation mark. -/
def scanMarkup : List Char → Scan Misc
  | [] => .short
  | '-' :: cs => (scanComment cs).map fun _ => .comment
  | '[' :: cs => .found .punctuation cs
  | c :: cs =>
    if c.isAlpha || c == '_' then
      let inWord (d : Char) : Bool := d.isAlpha || d == '_'
      let word := c :: cs.takeWhile inWord
      match cs.dropWhile inWord with
      | [] => .short
      | '%' :: rest =>
        match rest with
        | [] => .short
        | d :: _ =>
          if isXmlBlank d || d == '%' then .bad ('%' :: rest)
          else .found (.markup word) ('%' :: rest)
      | d :: rest => if isXmlBlank d then .found (.markup word) (d :: rest) else .bad (d :: rest)
    else .bad (c :: cs)

def scanLiteral (quote : Char) (cs : List Char) : Scan Misc :=
  let text := cs.takeWhile (· != quote)
  match cs.dropWhile (· != quote) with
  | [] => .short
  | _ :: [] => .found (.literal text) []
  | _ :: c :: rest =>
    if isXmlBlank c || c == '>' || c == '%' || c == '[' then .found (.literal text) (c :: rest)
    else .bad (c :: rest)

def endsWord (c : Char) : Bool :=
  isXmlBlank c || c == '>' || c == ')' || c == ',' || c == '|' || c == '[' || c == '%'

/-- What kind a word is by what has been read of it. -/
inductive WordKind where
  | name
  | qualified
  | token
  deriving DecidableEq

/-- The rest of a word outside the root element. -/
def scanWord : Nat → WordKind → List Char → List Char → Scan Misc
  | 0, _, _, _ => .short
  | fuel + 1, kind, done, cs =>
    let word : Misc := if kind == .token then .token else .name done.reverse
    match cs with
    | [] => .found word []
    | c :: rest =>
      if isNameChar c then scanWord fuel kind (c :: done) rest
      else if endsWord c then .found word cs
      else if c == ':' then
        match kind with
        | .name =>
          match rest with
          | [] => .short
          | d :: _ => scanWord fuel (if isNameChar d then .qualified else .token) (c :: done) rest
        | _ => scanWord fuel .token (c :: done) rest
      else if c == '+' || c == '*' || c == '?' then
        if kind == .token then .bad cs else .found .punctuation rest
      else .bad cs

/-- A reference to a parameter entity, after its percent sign. -/
def scanPercent (cs : List Char) : Scan Misc :=
  match cs with
  | [] => .short
  | c :: _ =>
    if isXmlBlank c || c == '%' then .found .punctuation cs
    else
      (scanName cs).andThen fun _ rest => (expect ';' rest).map fun _ => .parameterReference

/-- A name after a number sign. -/
def scanPound (cs : List Char) : Scan Misc :=
  (scanName cs).andThen fun _ rest =>
    match rest with
    | [] => .found .token []
    | c :: _ =>
      if isXmlBlank c || c == ')' || c == '>' || c == '%' || c == '|' then .found .punctuation rest
      else .bad rest

/-- A closing parenthesis and the mark that may follow it. -/
def scanParenthesis : List Char → Scan Misc
  | [] => .found .token []
  | c :: cs =>
    if c == '*' || c == '?' || c == '+' then .found .punctuation cs
    else if isXmlBlank c || c == '>' || c == ',' || c == '|' || c == ')' then
      .found .punctuation (c :: cs)
    else .bad (c :: cs)

/-- One piece of what stands outside the root element; the text is not empty. -/
def scanProlog (cs : List Char) : Scan Misc :=
  match cs with
  | [] => .short
  | '"' :: rest => scanLiteral '"' rest
  | '\'' :: rest => scanLiteral '\'' rest
  | '<' :: rest =>
    match rest with
    | [] => .short
    | '!' :: rest => scanMarkup rest
    | '?' :: rest =>
      (scanInstruction rest).map fun kind => if kind then .declaration else .instruction
    | c :: _ => if isNameStart c then .found .element cs else .bad rest
  | '%' :: rest => scanPercent rest
  | '[' :: rest => .found .openBracket rest
  | ']' :: ']' :: [] => .short
  | [']'] => .found .token []
  | ']' :: rest => .found .punctuation rest
  | '(' :: rest => .found .punctuation rest
  | ')' :: rest => scanParenthesis rest
  | ',' :: rest => .found .punctuation rest
  | '|' :: rest => .found .punctuation rest
  | '>' :: rest => .found .close rest
  | '#' :: rest => scanPound rest
  | c :: rest =>
    if isXmlBlank c then .found .blank (skipBlanks rest)
    else if isNameStart c then scanWord (rest.length + 1) .name [c] rest
    else if isNameChar c || c == ':' then scanWord (rest.length + 1) .token [c] rest
    else .bad cs

end Xml
end RoleAudit
