import RoleAudit.Text.Blank
import RoleAudit.Text.Class
import RoleAudit.Text.Cut

/-!
# Reading numerals

- `readInt?`: an optional sign and decimal digits of any script;
- `readFloat?`: the same with a fraction, an exponent, or the names of infinity and of no number.

Blanks around a numeral are allowed, and single underscores between digits.
-/

namespace RoleAudit
namespace Decimal

open RoleAudit.Text

/-- Blanks that may surround a numeral: all but the information separators. -/
def isMargin (c : Char) : Bool :=
  isBlank c && !(28 ≤ c.toNat && c.toNat ≤ 31)

/-- Write the digits of every script as ASCII digits. -/
def plainDigit (c : Char) : Char :=
  match decimalValue? c with
  | some n => Char.ofNat (48 + n)
  | none => c

/-- Read digits with single underscores between them; gives the digits and the rest. -/
def digitRun : List Char → List Char × List Char
  | [] => ([], [])
  | [c] => if c.isDigit then ([c], []) else ([], [c])
  | c :: d :: cs =>
    if c.isDigit then
      -- an underscore is taken only between two digits
      if d == '_' then
        match cs with
        | e :: _ =>
          if e.isDigit then
            let (more, rest) := digitRun cs
            (c :: more, rest)
          else ([c], d :: cs)
        | [] => ([c], [d])
      else
        let (more, rest) := digitRun (d :: cs)
        (c :: more, rest)
    else ([], c :: d :: cs)

/-- The number that decimal digits write. -/
def digitsValue (ds : List Char) : Nat :=
  ds.foldl (fun n c => n * 10 + (c.toNat - 48)) 0

/-- Split off a sign; the flag tells a minus. -/
def signOf : List Char → Bool × List Char
  | '-' :: cs => (true, cs)
  | '+' :: cs => (false, cs)
  | cs => (false, cs)

/-- The most digits an integer may be written with. -/
def longestInt : Nat := 4300

def readInt? (s : String) : Option Int :=
  let (negative, cs) := signOf ((trimOf isMargin s.toList).map plainDigit)
  match digitRun cs with
  | ([], _) => none
  | (ds, []) =>
    if ds.length > longestInt then none
    else some (if negative then -(digitsValue ds : Int) else (digitsValue ds : Int))
  | _ => none

/-- Read the exponent part that may end a numeral. -/
def exponentOf : List Char → Option Int
  | [] => some 0
  | c :: cs =>
    if c == 'e' || c == 'E' then
      let (negative, ds) := signOf cs
      match digitRun ds with
      | ([], _) => none
      | (ds, []) => some (if negative then -(digitsValue ds : Int) else (digitsValue ds : Int))
      | _ => none
    else none

def infinity : Float := 1.0 / 0.0

def notNumber : Float := 0.0 / 0.0

/-- The double nearest to `digits * 10 ^ scale`. -/
def nearestFloat (digits : Nat) (scale : Int) : Float :=
  if digits == 0 then 0.0
  else
    -- far outside of the range of doubles no power of ten is computed
    let size : Int := (Nat.toDigits 10 digits).length + scale
    if size > 400 then infinity
    else if size < -400 then 0.0
    else if 0 ≤ scale then Float.ofScientific digits false scale.toNat
    else Float.ofScientific digits true (-scale).toNat

/-- The double nearest to a whole number. -/
def floatOfInt (n : Int) : Float :=
  let x := nearestFloat n.natAbs 0
  if n < 0 then -x else x

/-- The double written by a sign, digits before and after the point, and an exponent. -/
def assembleFloat (negative : Bool) (whole fraction : List Char) (exponent : Int) : Float :=
  let x := nearestFloat (digitsValue (whole ++ fraction)) (exponent - fraction.length)
  if negative then -x else x

def readFloat? (s : String) : Option Float :=
  let (negative, cs) := signOf ((trimOf isMargin s.toList).map plainDigit)
  let name := String.ofList (cs.map Char.toLower)
  if name == "inf" || name == "infinity" then some (if negative then -infinity else infinity)
  else if name == "nan" then some notNumber
  else
    let (whole, rest) := digitRun cs
    let (fraction, rest, pointed) :=
      match rest with
      | '.' :: rest =>
        let (fraction, rest) := digitRun rest
        (fraction, rest, true)
      | rest => ([], rest, false)
    -- a point needs a digit on one of its sides
    if whole.isEmpty && (fraction.isEmpty || !pointed) then none
    else (exponentOf rest).map (assembleFloat negative whole fraction)

end Decimal
end RoleAudit
