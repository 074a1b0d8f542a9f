import RoleAudit.Archive.Member
import RoleAudit.Ordered

/-!
# The directory of an archive

An archive ends with a record that says where its directory is. Data before the archive and a
comment after it are allowed, so the record is searched for from the end.

- `EndRecord`, `endRecord?`: the record, in its long form if there is one;
- `members`: the entries of the directory in order; the count in the record is not used;
- `Listing`: the entries, each with the place before which its data ends.
-/

namespace RoleAudit
namespace Archive

def slice (bytes : Octets) (start length : Nat) : Octets :=
  (bytes.drop start).take length

/-! ## The end record -/

structure EndRecord where
  place : Nat
  /-- Octets between the directory and the record. -/
  gap : Nat
  directorySize : Nat
  directoryOffset : Nat

def endMark : Octets := [0x50, 0x4b, 5, 6]

def locatorMark : Octets := [0x50, 0x4b, 6, 7]

def longEndMark : Octets := [0x50, 0x4b, 6, 6]

def entryMark : Octets := [0x50, 0x4b, 1, 2]

/-- The last place where some octets stand, counted from a place. -/
def lastPlace? (mark : Octets) (place : Nat) (found : Option Nat) : Octets → Option Nat
  | [] => found
  | b :: rest =>
    lastPlace? mark (place + 1) (if mark.isPrefixOf (b :: rest) then some place else found) rest

def endSize : Nat := 22

def locatorSize : Nat := 20

def longEndSize : Nat := 56

/-- The greatest size of a comment, and one more. -/
def commentLimit : Nat := 65536

def endPlace? (bytes : Octets) : Option Nat :=
  let size := bytes.length
  let tail := bytes.drop (size - endSize)
  if size ≥ endSize && endMark.isPrefixOf tail && tail.drop 20 == [0, 0] then
    -- without a comment the record ends the archive
    some (size - endSize)
  else
    -- else it is the last place in reach that looks like a record
    let start := size - commentLimit - endSize
    match lastPlace? endMark start none (bytes.drop start) with
    | some place => if place + endSize ≤ size then some place else none
    | none => none

/-- The end record, in its long form if there is one before it. -/
def endRecord? (bytes : Octets) : Except Fault EndRecord := do
  match endPlace? bytes with
  | none => throw .notAnArchive
  | some place =>
    let fields := fieldsOf [4, 2, 2, 2, 2, 4, 4, 2] (slice bytes place endSize)
    let short : EndRecord := ⟨place, 0, fields.getD 5 0, fields.getD 6 0⟩
    -- a long record stands in front of its locator, and this in front of the short record
    let locator := slice bytes (place - locatorSize) locatorSize
    if locator.length != locatorSize || !locatorMark.isPrefixOf locator then return short
    let parts := fieldsOf [4, 4, 8, 4] locator
    if parts.getD 1 0 != 0 || 1 < parts.getD 3 0 then throw .severalDisks
    let long := slice bytes (place - locatorSize - longEndSize) longEndSize
    if long.length != longEndSize || !longEndMark.isPrefixOf long then return short
    let fields := fieldsOf [4, 8, 2, 2, 4, 4, 8, 8, 8, 8] long
    return ⟨place, locatorSize + longEndSize, fields.getD 8 0, fields.getD 9 0⟩

/-! ## Entries -/

/-- The size of an entry without its name, its extra fields and its comment. -/
def entrySize : Nat := 46

/-- The greatest number of four octets; it says that the number is in an extra field. -/
def longFlag : Nat := 0xffffffff

/-- Take a long number from an extra field. -/
def takeLong (field : String) (data : Octets) : Except Fault (Nat × Octets) :=
  if data.length < 8 then .error (.corruptLongExtra field)
  else .ok (little (data.take 8), data.drop 8)

/-- The numbers of an entry that an extra field of long numbers replaces. -/
def readLong (m : Member) (data : Octets) : Except Fault Member := do
  -- the long numbers follow each other, those that are not replaced being left out
  let (size, data) ←
    if m.size == longFlag || m.size == 0xffffffffffffffff then takeLong "File size" data
    else pure (m.size, data)
  let (packed, data) ←
    if m.packedSize == longFlag then takeLong "Compress size" data else pure (m.packedSize, data)
  let (offset, _) ←
    if m.offset == Int.ofNat longFlag then do
      let (n, data) ← takeLong "Header offset" data
      pure (Int.ofNat n, data)
    else pure (m.offset, data)
  return { m with size := size, packedSize := packed, offset := offset }

def readExtra : Nat → Octets → Member → Except Fault Member
  | 0, _, m => .ok m
  | steps + 1, extra, m => do
    -- what is too short for a field is passed over
    if extra.length < 4 then return m
    let id := little (extra.take 2)
    let size := little (slice extra 2 2)
    if extra.length < size + 4 then throw (.corruptExtra id size)
    let next ← if id == 1 then readLong m (slice extra 4 size) else pure m
    readExtra steps (extra.drop (size + 4)) next

/-- The last version of the format whose entries can be read, in tenths. -/
def lastVersion : Nat := 63

def entries (shift : Int) : Nat → Octets → Except Fault (List Member)
  | 0, _ => .ok []
  | steps + 1, bytes => do
    if bytes.isEmpty then return []
    let head := bytes.take entrySize
    if head.length != entrySize then throw .truncatedDirectory
    if !entryMark.isPrefixOf head then throw .badDirectoryMagic
    let f := fieldsOf [4, 1, 1, 1, 1, 2, 2, 2, 2, 4, 4, 4, 2, 2, 2, 2, 2, 4, 4] head
    let field (n : Nat) : Nat := f.getD n 0
    let rest := bytes.drop entrySize
    let written ← nameOf (hasBit (field 5) 11) (rest.take (field 12))
    let after := rest.drop (field 12)
    if lastVersion < field 3 then throw (.unknownVersion (field 3))
    let plain : Member :=
      { written := written, flags := field 5, method := field 6, checksum := field 9,
        packedSize := field 10, size := field 11, attributes := field 17,
        offset := Int.ofNat (field 18) }
    let extra := after.take (field 13)
    let m ← readExtra (extra.length + 1) extra plain
    let others ← entries shift steps (after.drop (field 13 + field 14))
    return { m with offset := m.offset + shift } :: others

/-- The entries of an archive, each with the place before which its data has to end. -/
structure Listing where
  members : List (Member × Int)

/-- The places before which data ends, for entries in descending order of where they start. -/
def endings (stop : Int) : List Member → List (Member × Int)
  | [] => []
  | m :: rest => (m, stop) :: endings m.offset rest

/-- Give each entry the place before which its data ends: the start of the next one. -/
def withEndings (directory : Int) (members : List Member) : List (Member × Int) :=
  let numbered := members.zipIdx
  -- from the last entry of the archive to the first one
  let descending := ordered (fun a b => b.1.offset ≤ a.1.offset) numbered
  let stops := (endings directory (descending.map (·.1))).map (·.2)
  let table := (descending.map (·.2)).zip stops
  numbered.map fun (m, i) => (m, (table.lookup i).getD directory)

def Listing.ofOctets (bytes : Octets) : Except Fault Listing := do
  let record ← endRecord? bytes
  -- something may stand in front of the archive, which moves all its places
  let shift : Int :=
    Int.ofNat record.place - record.directorySize - record.directoryOffset - record.gap
  let start : Int := record.directoryOffset + shift
  if start < 0 then throw .badDirectoryOffset
  let directory := slice bytes start.toNat record.directorySize
  let members ← entries shift (directory.length + 1) directory
  return ⟨withEndings start members⟩

end Archive
end RoleAudit
