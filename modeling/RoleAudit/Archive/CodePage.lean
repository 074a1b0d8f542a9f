import RoleAudit.Text.CodePage
import RoleAudit.Text.Encoding

/-!
# Code page 437

The encoding of names in archives that do not say that they use UTF-8.
-/

namespace RoleAudit
namespace Archive

/-- The characters of the octets from 128 on. -/
def codePageUpper : Array Char :=
  Text.upper437.toList.toArray

/-- The character of an octet; the lower half is ASCII. -/
def codePageChar (b : UInt8) : Char :=
  if b.toNat < 0x80 then Char.ofNat b.toNat
  else codePageUpper.getD (b.toNat - 0x80) '\uFFFD'

def decodeCodePage (bytes : Octets) : String :=
  String.ofList (bytes.map codePageChar)

end Archive
end RoleAudit
