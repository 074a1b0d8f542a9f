import RoleAudit.Text.Encoding

/-!
# Checksums

The cyclic redundancy check of 32 bits over a string of octets, low bit first.
-/

namespace RoleAudit
namespace Archive

/-- The generating polynomial, low bit first. -/
def checksumPolynomial : UInt32 := 0xedb88320

/-- Divide a register by the polynomial, bit by bit. -/
def checksumBits : Nat → UInt32 → UInt32
  | 0, r => r
  | n + 1, r =>
    checksumBits n (if r &&& 1 == 1 then (r >>> 1) ^^^ checksumPolynomial else r >>> 1)

def checksumStep (r : UInt32) (b : UInt8) : UInt32 :=
  checksumBits 8 (r ^^^ b.toUInt32)

def checksum (bytes : Octets) : Nat :=
  (bytes.foldl checksumStep 0xffffffff ^^^ 0xffffffff).toNat

end Archive
end RoleAudit
