/-!
# Hexadecimal digits

- `hexDigit`, `hexDigits`: numbers as lower-case digits;
- `hexValue?`, `hexNumber`: digits of either case as numbers.
-/

namespace RoleAudit
namespace Text

def hexDigit (n : Nat) : Char :=
  if n < 10 then Char.ofNat (48 + n) else Char.ofNat (87 + n)

/-- A number in lower-case hexadecimal with exactly the given number of digits. -/
def hexDigits : Nat → Nat → List Char
  | 0, _ => []
  | width + 1, n => hexDigits width (n / 16) ++ [hexDigit (n % 16)]

def hexValue? (c : Char) : Option Nat :=
  if '0' ≤ c && c ≤ '9' then some (c.toNat - 48)
  else if 'a' ≤ c && c ≤ 'f' then some (c.toNat - 87)
  else if 'A' ≤ c && c ≤ 'F' then some (c.toNat - 55)
  else none

/-- A hexadecimal digit. -/
def isHexDigit (c : Char) : Bool :=
  (hexValue? c).isSome

/-- The number that hexadecimal digits write; other characters count as zero. -/
def hexNumber (ds : List Char) : Nat :=
  ds.foldl (fun n c => n * 16 + (hexValue? c).getD 0) 0

end Text
end RoleAudit
