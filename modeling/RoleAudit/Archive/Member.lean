import RoleAudit.Archive.CodePage
import RoleAudit.Archive.Fault
import RoleAudit.Text.Cut

/-!
# Members of archives

One line of the directory of an archive, and how it is shown in a message.

- `little`, `fieldsOf`: numbers with the low octet first;
- `Member`: an entry as the directory lists it; its name is cut at the first null character;
- `Member.shown`: the entry in words.
-/

namespace RoleAudit
namespace Archive

/-! ## Numbers in octets -/

/-- The number in octets with the low one first. -/
def little (bytes : Octets) : Nat :=
  bytes.foldr (fun b n => b.toNat + 256 * n) 0

/-- Numbers of some widths, one after the other. -/
def fieldsOf : List Nat → Octets → List Nat
  | [], _ => []
  | w :: widths, bytes => little (bytes.take w) :: fieldsOf widths (bytes.drop w)

def hasBit (n bit : Nat) : Bool :=
  n / Nat.pow 2 bit % 2 == 1

/-- Octets as a name: UTF-8 if the flag says so, else the old code page. -/
def nameOf (isUtf8 : Bool) (bytes : Octets) : Except Fault String :=
  if isUtf8 then
    match Text.utf8Problem? bytes with
    | some problem => .error (.badName problem)
    | none => .ok (String.ofList (Text.decodeLossy bytes))
  else .ok (decodeCodePage bytes)

/-! ## Members -/

/-- An entry as the directory of an archive lists it. -/
structure Member where
  written : String
  flags : Nat
  method : Nat
  checksum : Nat
  packedSize : Nat
  size : Nat
  attributes : Nat
  /-- Where its header starts; it may be before the archive. -/
  offset : Int
  deriving Repr

namespace Member

def name (m : Member) : String :=
  String.ofList (m.written.toList.takeWhile (· != '\x00'))

def isDirectory (m : Member) : Bool :=
  Text.endsWith m.name "/"

def isEncrypted (m : Member) : Bool :=
  hasBit m.flags 0

def methodNames : List (Nat × String) :=
  [(0, "store"), (1, "shrink"), (2, "reduce"), (3, "reduce"), (4, "reduce"), (5, "reduce"),
    (6, "implode"), (7, "tokenize"), (8, "deflate"), (9, "deflate64"), (10, "implode"),
    (12, "bzip2"), (14, "lzma"), (18, "terse"), (19, "lz77"), (97, "wavpack"), (98, "ppmd")]

def kindLetter (mode : Nat) : Char :=
  match mode / 4096 % 16 with
  | 1 => 'p'
  | 2 => 'c'
  | 4 => 'd'
  | 6 => 'b'
  | 8 => '-'
  | 10 => 'l'
  | 12 => 's'
  | _ => '?'

/-- Three letters for what one class of users may do; a special bit changes the last one. -/
def rightsLetters (bits : Nat) (special : Bool) (both alone : Char) : List Char :=
  [if hasBit bits 2 then 'r' else '-', if hasBit bits 1 then 'w' else '-',
    if hasBit bits 0 then (if special then both else 'x') else (if special then alone else '-')]

def modeText (mode : Nat) : String :=
  String.ofList (kindLetter mode ::
    rightsLetters (mode / 64 % 8) (hasBit mode 11) 's' 'S' ++
    rightsLetters (mode / 8 % 8) (hasBit mode 10) 's' 'S' ++
    rightsLetters (mode % 8) (hasBit mode 9) 't' 'T')

def hexText (n : Nat) : String :=
  String.ofList (Nat.toDigits 16 n)

def shown (m : Member) : String :=
  let high := m.attributes / 65536
  let low := m.attributes % 65536
  let packing := ((methodNames.lookup m.method).getD (toString m.method))
  "<ZipInfo filename=" ++ Text.quoted m.name ++
    (if m.method != 0 then " compress_type=" ++ packing else "") ++
    (if high != 0 then " filemode=" ++ Text.quoted (modeText high) else "") ++
    (if low != 0 then " external_attr=0x" ++ hexText low else "") ++
    (if !m.isDirectory || m.size != 0 then s!" file_size={m.size}" else "") ++
    (if (!m.isDirectory || m.packedSize != 0) && (m.method != 0 || m.size != m.packedSize) then
      s!" compress_size={m.packedSize}" else "") ++ ">"

end Member

end Archive
end RoleAudit
