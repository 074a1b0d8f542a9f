import RoleAudit.Decimal.Numeral
import RoleAudit.Decimal.Whole
import RoleAudit.Json.Value
import RoleAudit.Text.Cut
import RoleAudit.Text.Hexadecimal

/-!
# Reading values

`Json.read` reads one value and nothing after it. A failure names what was expected and where: the
line and column, both from one, and the number of characters before it. Numbers with a fraction or
an exponent are doubles; the names of infinity and of no number are accepted; of two entries with
one key the later value stands.
-/

namespace RoleAudit
namespace Json

/-- What stopped the reading of a value. -/
inductive Fault where
  | value
  | colon
  | comma
  | propertyName
  | unterminated
  | control
  | escape
  | unicodeEscape
  | extra
  | byteOrderMark
  deriving DecidableEq, Repr

def Fault.wording : Fault → String
  | .value => "Expecting value"
  | .colon => "Expecting ':' delimiter"
  | .comma => "Expecting ',' delimiter"
  | .propertyName => "Expecting property name enclosed in double quotes"
  | .unterminated => "Unterminated string starting at"
  | .control => "Invalid control character at"
  | .escape => "Invalid \\escape"
  | .unicodeEscape => "Invalid \\uXXXX escape"
  | .extra => "Extra data"
  | .byteOrderMark => "Unexpected UTF-8 BOM (decode using utf-8-sig)"

/-- A fault at a place, given by the number of characters from there to the end. -/
structure Stop where
  fault : Fault
  remaining : Nat

/-- A failure to read a value: the fault and the text before it. -/
structure ReadError where
  fault : Fault
  before : List Char
  deriving DecidableEq, Repr

def ReadError.message (e : ReadError) : String :=
  let line := e.before.count '\n' + 1
  let column := (e.before.reverse.takeWhile (· != '\n')).length + 1
  e.fault.wording ++ ": line " ++ Decimal.natText line ++ " column " ++ Decimal.natText column ++
    " (char " ++ Decimal.natText e.before.length ++ ")"

/-- Blanks between the parts of a value. -/
def isGap (c : Char) : Bool :=
  c == ' ' || c == '\t' || c == '\n' || c == '\r'

def skipGap (cs : List Char) : List Char :=
  cs.dropWhile isGap

def hexQuad? (cs : List Char) : Option Nat :=
  if cs.length == 4 && cs.all Text.isHexDigit then some (Text.hexNumber cs) else none

/-- The character of a one-letter escape. -/
def shortEscape? (c : Char) : Option Char :=
  if c == '"' || c == '\\' || c == '/' then some c
  else if c == 'b' then some (Char.ofNat 8)
  else if c == 'f' then some (Char.ofNat 12)
  else if c == 'n' then some '\n'
  else if c == 'r' then some '\r'
  else if c == 't' then some '\t'
  else none

/-- The second half of a pair of surrogates, and the text after it, if one follows. -/
def secondUnit (cs : List Char) : Except Stop (Option (Nat × List Char)) :=
  match cs with
  | '\\' :: 'u' :: rest =>
    -- what is too short for an escape is left to be read next
    if rest.length < 5 then .ok none
    else
      match hexQuad? (rest.take 4) with
      | none => .error ⟨.unicodeEscape, rest.length + 1⟩
      | some n => .ok (if 0xdc00 ≤ n ∧ n ≤ 0xdfff then some (n, rest.drop 4) else none)
  | _ => .ok none

/--
Read the rest of a string after its opening quote; `start` is the number of characters from that
quote to the end of the text.
-/
def readString (start : Nat) : Nat → List Char → List Char → Except Stop (String × List Char)
  | 0, _, _ => .error ⟨.unterminated, start⟩
  | _ + 1, _, [] => .error ⟨.unterminated, start⟩
  | fuel + 1, done, c :: cs =>
    if c == '"' then .ok (String.ofList done.reverse, cs)
    else if c.toNat ≤ 0x1f then .error ⟨.control, cs.length + 1⟩
    else if c != '\\' then readString start fuel (c :: done) cs
    else
      match cs with
      | [] => .error ⟨.unterminated, start⟩
      | 'u' :: rest =>
        if rest.length < 5 then .error ⟨.unicodeEscape, rest.length + 1⟩
        else
          match hexQuad? (rest.take 4) with
          | none => .error ⟨.unicodeEscape, rest.length + 1⟩
          | some n =>
            let after := rest.drop 4
            if 0xd800 ≤ n ∧ n ≤ 0xdbff then
              match secondUnit after with
              | .error stop => .error stop
              | .ok (some (low, after)) =>
                readString start fuel
                  (Char.ofNat (0x10000 + (n - 0xd800) * 0x400 + (low - 0xdc00)) :: done) after
              -- a half of a pair alone is no character
              | .ok none => readString start fuel (Char.ofNat 0xfffd :: done) after
            else if 0xdc00 ≤ n ∧ n ≤ 0xdfff then
              readString start fuel (Char.ofNat 0xfffd :: done) after
            else readString start fuel (Char.ofNat n :: done) after
      | e :: rest =>
        match shortEscape? e with
        | some d => readString start fuel (d :: done) rest
        | none => .error ⟨.escape, rest.length + 2⟩

/-- Read the digits of a number's whole part. -/
def wholePart? : List Char → Option (List Char × List Char)
  | '0' :: cs => some (['0'], cs)
  | c :: cs =>
    if c.isDigit then some (c :: cs.takeWhile Char.isDigit, cs.dropWhile Char.isDigit) else none
  | [] => none

/-- Read a fraction, if one follows. -/
def fractionPart : List Char → List Char × List Char
  | '.' :: c :: cs =>
    if c.isDigit then (c :: cs.takeWhile Char.isDigit, cs.dropWhile Char.isDigit)
    else ([], '.' :: c :: cs)
  | cs => ([], cs)

/-- Read an exponent, if one follows. -/
def exponentPart? (cs : List Char) : Option (Int × List Char) :=
  match cs with
  | c :: rest =>
    if c == 'e' || c == 'E' then
      let (negative, ds) := Decimal.signOf rest
      let digits := ds.takeWhile Char.isDigit
      if digits.isEmpty then none
      else
        let n : Int := Decimal.digitsValue digits
        some (if negative then -n else n, ds.dropWhile Char.isDigit)
    else none
  | [] => none

def readNumber? (cs : List Char) : Option (Json × List Char) :=
  let (negative, body) :=
    match cs with
    | '-' :: rest => (true, rest)
    | cs => (false, cs)
  match wholePart? body with
  | none => none
  | some (whole, rest) =>
    -- without a fraction and an exponent the number is whole
    let (fraction, rest) := fractionPart rest
    match exponentPart? rest with
    | some (e, rest) => some (.float (Decimal.assembleFloat negative whole fraction e), rest)
    | none =>
      if fraction.isEmpty then
        let n : Int := Decimal.digitsValue whole
        some (.int (if negative then -n else n), rest)
      else some (.float (Decimal.assembleFloat negative whole fraction 0), rest)

/-- The words that stand for values. -/
def words : List (String × Json) :=
  [("null", .null), ("true", .bool true), ("false", .bool false), ("NaN", .float Decimal.notNumber),
    ("Infinity", .float Decimal.infinity), ("-Infinity", .float (-Decimal.infinity))]

def readWord? (cs : List Char) : Option (Json × List Char) :=
  (words.find? fun entry => entry.1.toList.isPrefixOf cs).map fun entry =>
    (entry.2, cs.drop entry.1.length)

mutual

def readValue : Nat → List Char → Except Stop (Json × List Char)
  | 0, cs => .error ⟨.value, cs.length⟩
  | fuel + 1, cs =>
    match cs with
    | '"' :: rest => do
      let (s, rest) ← readString cs.length rest.length.succ [] rest
      .ok (.str s, rest)
    | '[' :: rest =>
      match skipGap rest with
      | ']' :: rest => .ok (.arr [], rest)
      | rest => readItems fuel [] rest
    | '\x7b' :: rest =>
      match skipGap rest with
      | '\x7d' :: rest => .ok (.obj [], rest)
      | rest => readEntries fuel [] rest
    | cs =>
      match readWord? cs with
      | some found => .ok found
      | none =>
        match readNumber? cs with
        | some found => .ok found
        | none => .error ⟨.value, cs.length⟩

/-- Read the items of a list up to its closing bracket. -/
def readItems : Nat → List Json → List Char → Except Stop (Json × List Char)
  | 0, _, cs => .error ⟨.value, cs.length⟩
  | fuel + 1, done, cs => do
    let (item, rest) ← readValue fuel cs
    match skipGap rest with
    | ']' :: rest => .ok (.arr (item :: done).reverse, rest)
    | ',' :: rest => readItems fuel (item :: done) (skipGap rest)
    | rest => .error ⟨.comma, rest.length⟩

/-- Read the entries of a table up to its closing brace. -/
def readEntries : Nat → List (String × Json) → List Char → Except Stop (Json × List Char)
  | 0, _, cs => .error ⟨.value, cs.length⟩
  | fuel + 1, done, cs =>
    match cs with
    | '"' :: rest => do
      let (key, rest) ← readString cs.length rest.length.succ [] rest
      match skipGap rest with
      | ':' :: rest => do
        let (value, rest) ← readValue fuel (skipGap rest)
        -- the last value of a key counts, at the place of the first
        let done := put key value done
        match skipGap rest with
        | '\x7d' :: rest => .ok (.obj done, rest)
        | ',' :: rest => readEntries fuel done (skipGap rest)
        | rest => .error ⟨.comma, rest.length⟩
      | rest => .error ⟨.colon, rest.length⟩
    | cs => .error ⟨.propertyName, cs.length⟩

end

/-- Read one value and nothing after it but blanks. -/
def read (s : String) : Except ReadError Json :=
  let cs := s.toList
  let total := cs.length
  let fail (stop : Stop) : Except ReadError Json :=
    .error ⟨stop.fault, cs.take (total - stop.remaining)⟩
  match cs with
  | '\uFEFF' :: _ => fail ⟨.byteOrderMark, total⟩
  | cs =>
    -- each value takes one step of the fuel, and each part of it another one
    match readValue (2 * total + 2) (skipGap cs) with
    | .error stop => fail stop
    | .ok (value, rest) =>
      match skipGap rest with
      | [] => .ok value
      | rest => fail ⟨.extra, rest.length⟩

end Json
end RoleAudit
