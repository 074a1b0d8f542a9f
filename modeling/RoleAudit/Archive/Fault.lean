import RoleAudit.Text.Quoted

/-!
# Faults of archives

What can be wrong with an archive or with one of its entries.

- `Fault`: the causes;
- `Fault.isBroken`: the archive itself is broken, as opposed to using what is not supported;
- `Fault.isRefusal`: an entry is refused;
- `Fault.message`: the wording.
-/

namespace RoleAudit
namespace Archive

inductive Fault where
  | notAnArchive
  | severalDisks
  | badDirectoryOffset
  | truncatedDirectory
  | badDirectoryMagic
  | corruptExtra (id size : Nat)
  | corruptLongExtra (field : String)
  | truncatedHeader
  | badHeaderMagic
  | nameMismatch (listed : String) (header : Octets)
  | overlapping (name : String)
  | badChecksum (name : String)
  /-- The archive needs a later version of the format, given in tenths. -/
  | unknownVersion (tenths : Nat)
  | unknownMethod
  | patchedData
  | strongEncryption
  | encrypted (shown : String)
  /-- An entry would start before the archive. -/
  | negativeOffset (distance : Nat)
  | badName (problem : Text.Utf8Problem)
  | corruptData
  /-- Blocks that are not as they are packed. -/
  | corruptBlocks
  /-- Ranges that are not as they are packed. -/
  | corruptRanges (problem : String)
  deriving DecidableEq, Repr

namespace Fault

/-- The archive itself is broken. -/
def isBroken : Fault → Bool
  | notAnArchive | severalDisks | badDirectoryOffset | truncatedDirectory | badDirectoryMagic
  | corruptExtra _ _ | corruptLongExtra _ | truncatedHeader | badHeaderMagic
  | nameMismatch _ _ | overlapping _ | badChecksum _ => true
  | _ => false

/-- An entry is refused: it is broken, or its blocks cannot be unpacked. -/
def isRefusal (f : Fault) : Bool :=
  f.isBroken || f == corruptBlocks

def message : Fault → String
  | notAnArchive => "File is not a zip file"
  | severalDisks => "zipfiles that span multiple disks are not supported"
  | badDirectoryOffset => "Bad offset for central directory"
  | truncatedDirectory => "Truncated central directory"
  | badDirectoryMagic => "Bad magic number for central directory"
  | corruptExtra id size =>
    "Corrupt extra field " ++ String.ofList (Text.hexDigits 4 id) ++ s!" (size={size})"
  | corruptLongExtra field => s!"Corrupt zip64 extra field. {field} not found."
  | truncatedHeader => "Truncated file header"
  | badHeaderMagic => "Bad magic number for file header"
  | nameMismatch listed header =>
    "File name in directory " ++ Text.quoted listed ++ " and header " ++ Text.quotedBytes header ++
      " differ."
  | overlapping name => "Overlapped entries: " ++ Text.quoted name ++ " (possible zip bomb)"
  | badChecksum name => "Bad CRC-32 for file " ++ Text.quoted name
  | unknownVersion tenths => s!"zip file version {tenths / 10}.{tenths % 10}"
  | unknownMethod => "That compression method is not supported"
  | patchedData => "compressed patched data (flag bit 5)"
  | strongEncryption => "strong encryption (flag bit 6)"
  | encrypted shown => s!"File {shown} is encrypted, password required for extraction"
  | negativeOffset distance => s!"negative seek value -{distance}"
  | badName problem => problem.message
  | corruptData => "invalid compressed data"
  | corruptBlocks => "Invalid data stream"
  | corruptRanges problem => problem

end Fault

end Archive
end RoleAudit
