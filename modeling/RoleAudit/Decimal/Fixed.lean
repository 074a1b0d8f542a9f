import RoleAudit.Decimal.Shortest

/-!
# Fixed places

- `roundDiv`: a quotient to the nearest whole number, a half going to the even one;
- `fixedText`: a double with a fixed number of places;
- `roundTo`: the double nearest to a value rounded to some places.
-/

namespace RoleAudit
namespace Decimal

/-- A quotient rounded to the nearest whole number; a half goes to the even neighbour. -/
def roundDiv (num den : Nat) : Nat :=
  let q := num / den
  let r := num % den
  if 2 * r < den then q
  else if den < 2 * r then q + 1
  else if q % 2 == 0 then q
  else q + 1

/-- The magnitude of a finite double in units of the last of some decimal places. -/
def placesOf (places : Nat) (x : Float) : Nat :=
  let b := Binary.ofFloat x
  let (num, den) := scaleBy 2 b.exponent b.mantissa 1
  roundDiv (num * Nat.pow 10 places) den

/-- A double with a fixed number of places, at least one. -/
def fixedText (places : Nat) (x : Float) : String :=
  if x.isNaN then "nan"
  else
    let sign := if isNegative x then "-" else ""
    if x.isInf then sign ++ "inf"
    else
      let n := placesOf places x
      let fraction := Nat.toDigits 10 (n % Nat.pow 10 places)
      -- the digits after the point need their zeros back
      sign ++ natText (n / Nat.pow 10 places) ++ "." ++
        String.ofList (zeros (places - fraction.length) ++ fraction)

/-- The double nearest to a non-negative value rounded to some places. -/
def roundTo (places : Nat) (x : Float) : Float :=
  Float.ofScientific (placesOf places x) true places

end Decimal
end RoleAudit
