/-!
# Whole numbers as text

- `natText`, `intText`: decimal digits, with a minus sign for a negative number;
- `grouped`: the same with a comma before every third digit from the right.
-/

namespace RoleAudit
namespace Decimal

def natText (n : Nat) : String :=
  String.ofList (Nat.toDigits 10 n)

/-- Decimal digits of an integer, with a minus sign if it is negative. -/
def intText : Int → String
  | .ofNat n => natText n
  | .negSucc n => "-" ++ natText (n + 1)

/-- Put a comma after every third digit of a reversed number. -/
def groupThrees : List Char → List Char
  | a :: b :: c :: d :: rest => a :: b :: c :: ',' :: groupThrees (d :: rest)
  | cs => cs

/-- An integer with its digits in groups of three. -/
def grouped : Int → String
  | .ofNat n => String.ofList (groupThrees (Nat.toDigits 10 n).reverse).reverse
  | .negSucc n => "-" ++ String.ofList (groupThrees (Nat.toDigits 10 (n + 1)).reverse).reverse

end Decimal
end RoleAudit
