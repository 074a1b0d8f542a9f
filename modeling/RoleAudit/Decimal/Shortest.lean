import RoleAudit.Decimal.Whole

/-!
# Shortest decimals

The shortest decimal that reads back as a given double, and the text of a double.

- `Binary`: a finite double as `mantissa * 2 ^ exponent`;
- `Binary.shortest`: the fewest digits among the decimals that round to the value, and of those the
  nearest; a tie goes to the even last digit;
- `floatText`: positional from `1e-4` up to `1e16`, with an exponent of at least two digits outside.
-/

namespace RoleAudit
namespace Decimal

/-- A finite double without its sign: `mantissa * 2 ^ exponent`. -/
structure Binary where
  mantissa : Nat
  exponent : Int
  /-- The next smaller double is only half as far as the next larger one. -/
  lowerHalf : Bool
  deriving DecidableEq, Repr

/-- A positive decimal `digits * 10 ^ scale`. -/
structure Scaled where
  digits : Nat
  scale : Int
  deriving DecidableEq, Repr

/-- The magnitude of a finite double. -/
def Binary.ofFloat (x : Float) : Binary :=
  let bits := x.toBits.toNat
  let fraction : Nat := bits % Nat.pow 2 52
  let biased : Nat := bits / Nat.pow 2 52 % Nat.pow 2 11
  -- a subnormal has no hidden bit
  if biased == 0 then ⟨fraction, -1074, false⟩
  else ⟨fraction + Nat.pow 2 52, (biased : Int) - 1075, fraction == 0 && biased > 1⟩

def isNegative (x : Float) : Bool :=
  x.toBits.toNat / Nat.pow 2 63 == 1

/-- The rational number `num * base ^ power / den` as a fraction of naturals. -/
def scaleBy (base : Nat) (power : Int) (num den : Nat) : Nat × Nat :=
  if 0 ≤ power then (num * Nat.pow base power.toNat, den)
  else (num, den * Nat.pow base (-power).toNat)

/-- The least `k`, searched upward, with `num / den < 10 ^ k`. -/
def decimalLength (num den : Nat) : Nat → Int → Int
  | 0, k => k
  | fuel + 1, k =>
    let (n, d) := scaleBy 10 (-k) num den
    if n < d then k else decimalLength num den fuel (k + 1)

/--
The decimal with the given number of digits that lies in the rounding interval of `b` and is
nearest to it, if there is one; `k` is the decimal length of the value.
-/
def Binary.onGrid? (b : Binary) (k : Int) (count : Nat) : Option Scaled :=
  let scale := k - count
  -- The value and both ends of its interval, in quarters of its last place and grid units.
  let (unitNum, den) := scaleBy 2 (b.exponent - 2) 1 1
  let (unitNum, den) := scaleBy 10 (-scale) unitNum den
  let value := 4 * b.mantissa * unitNum
  let low := (4 * b.mantissa - if b.lowerHalf then 1 else 2) * unitNum
  let high := (4 * b.mantissa + 2) * unitNum
  let inside (n : Nat) : Bool :=
    -- an even mantissa takes the ends of its interval as well
    if b.mantissa % 2 == 0 then low ≤ n * den && n * den ≤ high else low < n * den && n * den < high
  let below := value / den
  let above := below + 1
  let down := value - below * den
  let up := above * den - value
  let pick :=
    match inside below && 0 < below, inside above with
    | true, true =>
      if down < up then some below
      else if up < down then some above
      else some (if below % 2 == 0 then below else above)
    | true, false => some below
    | false, true => some above
    | false, false => none
  pick.map fun n => ⟨n, scale⟩

/-- The first hit among the grids of `count`, `count + 1`, … digits. -/
def Binary.search (b : Binary) (k : Int) : Nat → Nat → Scaled
  | 0, _ => ⟨0, 0⟩
  | fuel + 1, count =>
    match b.onGrid? k count with
    | some d => d
    | none => b.search k fuel (count + 1)

def Binary.shortest (b : Binary) : Scaled :=
  let (num, den) := scaleBy 2 b.exponent b.mantissa 1
  -- 30103 / 100000 is the logarithm of two, so the search starts just below
  let start : Int := ((Nat.log2 b.mantissa : Int) + b.exponent) * 30103 / 100000 - 1
  b.search (decimalLength num den 8 start) 18 1

/-- The digits of a number and how many zeros were dropped from their end. -/
def withoutZeros : Nat → Nat → Int → Nat × Int
  | 0, n, scale => (n, scale)
  | fuel + 1, n, scale =>
    if n != 0 && n % 10 == 0 then withoutZeros fuel (n / 10) (scale + 1) else (n, scale)

def zeros (n : Nat) : List Char :=
  List.replicate n '0'

/-- The text of a positive decimal. -/
def Scaled.text (d : Scaled) : String :=
  let (digits, scale) := withoutZeros 20 d.digits d.scale
  let ds := Nat.toDigits 10 digits
  let point : Int := ds.length + scale
  if -4 < point && point ≤ 16 then
    if point ≤ 0 then String.ofList ('0' :: '.' :: zeros (-point).toNat ++ ds)
    else if ds.length ≤ point.toNat then
      String.ofList (ds ++ zeros (point.toNat - ds.length) ++ ['.', '0'])
    else String.ofList (ds.take point.toNat ++ '.' :: ds.drop point.toNat)
  else
    let e := point - 1
    let eDigits := Nat.toDigits 10 e.natAbs
    String.ofList (ds.take 1 ++ (if ds.length > 1 then '.' :: ds.drop 1 else []) ++
      ['e', if e < 0 then '-' else '+'] ++ zeros (2 - eDigits.length) ++ eDigits)

/-- The text of a double: the shortest decimal that reads back, or `inf`, `-inf`, `nan`. -/
def floatText (x : Float) : String :=
  if x.isNaN then "nan"
  else
    let sign := if isNegative x then "-" else ""
    if x.isInf then sign ++ "inf"
    else
      let b := Binary.ofFloat x
      if b.mantissa == 0 then sign ++ "0.0" else sign ++ b.shortest.text

end Decimal
end RoleAudit
