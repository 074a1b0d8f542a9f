import RoleAudit.Archive.Blocks
import RoleAudit.Archive.Inflate
import RoleAudit.Archive.Listing
import RoleAudit.Archive.Ranges

/-!
# The content of an archive

The data of an entry stands behind a header of its own, which has to agree with the directory.

- `content`: the data of one entry;
- `Entry`: an entry as a name and data; `opened`: all entries of an archive.
-/

namespace RoleAudit
namespace Archive

def headerMark : Octets := [0x50, 0x4b, 3, 4]

def headerSize : Nat := 30

/-- Where the data of an entry starts, after its header is checked. -/
def dataPlace (bytes : Octets) (m : Member) (stop : Int) : Except Fault Nat := do
  if m.offset < 0 then throw (.negativeOffset m.offset.natAbs)
  let start := m.offset.toNat
  let head := slice bytes start headerSize
  if head.length != headerSize then throw .truncatedHeader
  if !headerMark.isPrefixOf head then throw .badHeaderMagic
  let f := fieldsOf [4, 1, 1, 2, 2, 2, 2, 4, 4, 4, 2, 2] head
  let field (n : Nat) : Nat := f.getD n 0
  let name := slice bytes (start + headerSize) (field 10)
  if hasBit m.flags 5 then throw .patchedData
  if hasBit m.flags 6 then throw .strongEncryption
  -- the header tells for itself how its name is written
  let written ← nameOf (hasBit (field 3) 11) name
  if written != m.written then throw (.nameMismatch m.written name)
  -- the header tells the lengths in front of the data, the listing that of the data
  let place := min (start + headerSize + field 10 + field 11) bytes.length
  if stop < Int.ofNat (place + m.packedSize) then throw (.overlapping m.written)
  if m.isEncrypted then throw (.encrypted m.shown)
  return place

/-- The data of an entry, with its size and its checksum checked. -/
def content (bytes : Octets) (m : Member) (stop : Int) : Except Fault Octets := do
  let place ← dataPlace bytes m stop
  let packed := slice bytes place m.packedSize
  let whole ←
    if m.method == 0 then pure packed
    else if m.method == 8 then
      match inflate packed with
      | some data => pure data
      | none => throw .corruptData
    else if m.method == 12 then
      match unpackBlocks packed with
      | some data => pure data
      | none => throw .corruptBlocks
    else if m.method == 14 then unpackRanges packed
    else throw .unknownMethod
  -- what is longer than listed is cut before it is checked
  let data := whole.take m.size
  if checksum data != m.checksum then throw (.badChecksum m.name)
  return data

/-! ## Entries -/

/-- An entry of an open archive: its name, and its data once they are asked for. -/
structure Entry where
  name : String
  data : Unit → Except Fault Octets

def Entry.isDirectory (e : Entry) : Bool :=
  Text.endsWith e.name "/"

def opened (bytes : Octets) : Except Fault (List Entry) := do
  let listing ← Listing.ofOctets bytes
  return listing.members.map fun (m, stop) => ⟨m.name, fun _ => content bytes m stop⟩

end Archive
end RoleAudit
