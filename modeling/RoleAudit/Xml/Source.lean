import RoleAudit.Text.Encoding
import RoleAudit.Xml.Codec
import RoleAudit.Xml.Error
import RoleAudit.Xml.Name

/-!
# Documents as characters

The octets of a document, read in the encoding that they declare.

- `Ending`: what follows the last character that could be read;
- `Reading`: the characters of a document and their ending;
- `Encoding.read`: octets as characters;
- `detect`: the family of encodings that the first octets show;
- `declared`: what becomes of a document by the name of the encoding that it declares.
-/

namespace RoleAudit
namespace Xml

/-- What follows the characters that could be read. -/
inductive Ending where
  | complete
  /-- An octet that is no character, or a character that no document may hold. -/
  | broken
  /-- The first octets of a character. -/
  | cutCharacter
  /-- The first half of a two-octet unit. -/
  | cutUnit
  deriving DecidableEq, Repr

/-- The characters of a document and what follows them. -/
structure Reading where
  chars : List Char
  ending : Ending

inductive Encoding where
  | utf8
  | utf16 (bigEndian : Bool)
  /-- Each octet stands for the character at its place; a replacement character stands for none. -/
  | single (chars : String)

/-- Put a character before a reading, if a document may hold it. -/
def Reading.cons (c : Char) (r : Reading) : Reading :=
  if isXmlChar c then ⟨c :: r.chars, r.ending⟩ else ⟨[], .broken⟩

/-- How many octets the character has that an octet begins. -/
def leadWidth (b : UInt8) : Nat :=
  let n := b.toNat
  if n < 0xc0 then 1 else if n < 0xe0 then 2 else if n < 0xf0 then 3 else if n < 0xf5 then 4 else 1

/-- The ending at octets that are no character: they may be too few for the one they begin. -/
def faultEnding (bytes : Octets) : Ending :=
  match bytes with
  | [] => .complete
  | b :: _ => if bytes.length < leadWidth b then .cutCharacter else .broken

/-- The characters among units of UTF-8 up to the first fault; `bytes` are their octets. -/
def readUnits : List Text.Utf8Unit → Octets → Reading
  | [], _ => ⟨[], .complete⟩
  | .char c :: rest, bytes => (readUnits rest (bytes.drop c.utf8Size)).cons c
  | .fault _ _ :: _, bytes => ⟨[], faultEnding bytes⟩

/-- Octets that each stand for one character. -/
def readSingle (chars : Array Char) : Octets → Reading
  | [] => ⟨[], .complete⟩
  | b :: bs =>
    let c := chars.getD b.toNat '\uFFFD'
    if c == '\uFFFD' then ⟨[], .broken⟩ else (readSingle chars bs).cons c

def readPairs (bigEndian : Bool) : Octets → Reading
  | [] => ⟨[], .complete⟩
  | [_] => ⟨[], .cutUnit⟩
  | a :: b :: rest =>
    let unit (x y : UInt8) : Nat :=
      if bigEndian then x.toNat * 256 + y.toNat else y.toNat * 256 + x.toNat
    let n := unit a b
    -- the second half of a pair alone
    if 0xdc00 ≤ n && n ≤ 0xdfff then ⟨[], .broken⟩
    else if 0xd800 ≤ n && n ≤ 0xdbff then
      match rest with
      | c :: d :: rest =>
        let m := unit c d
        if 0xdc00 ≤ m && m ≤ 0xdfff then
          let code := 0x10000 + (n - 0xd800) * 0x400 + (m - 0xdc00)
          (readPairs bigEndian rest).cons (Char.ofNat code)
        else ⟨[], .broken⟩
      | _ => ⟨[], .cutCharacter⟩
    else (readPairs bigEndian rest).cons (Char.ofNat n)

def Encoding.read : Encoding → Octets → Reading
  | .utf8, bytes => readUnits (Text.utf8Units bytes) bytes
  | .utf16 bigEndian, bytes => readPairs bigEndian bytes
  | .single chars, bytes => readSingle chars.toList.toArray bytes

def Encoding.unit : Encoding → Nat
  | .utf16 _ => 2
  | _ => 1

/-- The characters by which places are counted in a text that was read as `before`. -/
def Encoding.passed (e : Encoding) (before : List Char) (bytes : Octets) : List Char :=
  match e with
  | .single _ => bytes.map fun b => Char.ofNat b.toNat
  | _ => before

/-- The encoding that the first octets show; `none` if they begin a mark and no more follows. -/
def detect : Octets → Option Encoding
  | [b] => if b == 0x00 || b == 0xef || b == 0xfe || b == 0xff then none else some .utf8
  | [0xef, 0xbb] => none
  | 0xfe :: 0xff :: _ => some (.utf16 true)
  | 0xff :: 0xfe :: _ => some (.utf16 false)
  | 0x00 :: _ => some (.utf16 true)
  | _ :: 0x00 :: _ => some (.utf16 false)
  | _ => some .utf8

/-- What a declaration of an encoding asks for. -/
inductive Declared where
  | known (encoding : Encoding)
  | sixteen (bigEndian : Option Bool)
  | named (codec : Codec)
  | unknown

/-- The encoding of a declared name. A short name of UTF-8 is served by its ASCII part alone. -/
def declared (name : String) : Declared :=
  let n := String.ofList (name.toList.map Char.toLower)
  if n == "utf-8" then .known .utf8
  else if n == "iso-8859-1" then .known (.single latin1Chars)
  else if n == "us-ascii" then .known (.single asciiOnly)
  else if n == "utf-16" then .sixteen none
  else if n == "utf-16be" then .sixteen (some true)
  else if n == "utf-16le" then .sixteen (some false)
  else
    match codecOf? name with
    | some codec => .named codec
    | none => .unknown

end Xml
end RoleAudit
