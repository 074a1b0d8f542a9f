import RoleAudit.Text.Encoding

/-!
# Octets to the base sixty-four

Octets written with sixty-four digits, four digits for three octets.

- `Base64.decode?`: the octets of a text; characters that are no digits do not count, and padding in
  its place ends the text;
- `Base64.encode`: the text of octets, with padding.
-/

namespace RoleAudit
namespace Text
namespace Base64

/-- The digits, in the order of their values. -/
def digits : List Char :=
  "ABCDEFGHIJKLMNOPQRSTUVWXYZabcdefghijklmnopqrstuvwxyz0123456789+/".toList

def digitValue? (c : Char) : Option Nat :=
  if c.isUpper then some (c.toNat - 65)
  else if c.isLower then some (c.toNat - 71)
  else if c.isDigit then some (c.toNat + 4)
  else if c == '+' then some 62
  else if c == '/' then some 63
  else none

/--
The octets that a text goes on with, where `held` digits are pending with the value `left` of their
unused bits, and `done` holds the octets so far, the last one first.
-/
def decodeFrom (held left pads : Nat) (done : Octets) : List Char → Option Octets
  | [] => if held == 0 then some done.reverse else none
  | '=' :: cs =>
    -- a text ends where its pads make up for the digits that are missing
    if 2 ≤ held && 4 ≤ held + pads + 1 then some done.reverse
    else decodeFrom held left (if 2 ≤ held then pads + 1 else pads) done cs
  | c :: cs =>
    match digitValue? c with
    -- what is no digit is passed over
    | none => decodeFrom held left pads done cs
    | some d =>
      match held with
      | 0 => decodeFrom 1 d 0 done cs
      | 1 => decodeFrom 2 (d % 16) 0 (UInt8.ofNat (left * 4 + d / 16) :: done) cs
      | 2 => decodeFrom 3 (d % 4) 0 (UInt8.ofNat (left * 16 + d / 4) :: done) cs
      | _ => decodeFrom 0 0 0 (UInt8.ofNat (left * 64 + d) :: done) cs

/-- The octets that a text writes, if it is complete. -/
def decode? (cs : List Char) : Option Octets :=
  decodeFrom 0 0 0 [] cs

/-- The first digits of three octets. -/
def group (count : Nat) (a b c : UInt8) : List Char :=
  let whole := (a.toNat * 256 + b.toNat) * 256 + c.toNat
  ([262144, 4096, 64, 1].map fun w => digits.getD (whole / w % 64) 'A').take count

def encode : Octets → List Char
  | [] => []
  | [a] => group 2 a 0 0 ++ ['=', '=']
  | [a, b] => group 3 a b 0 ++ ['=']
  | a :: b :: c :: rest => group 4 a b c ++ encode rest

end Base64
end Text
end RoleAudit
