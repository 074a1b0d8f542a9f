import RoleAudit.Decimal.Numeral
import RoleAudit.Decimal.Shortest
import RoleAudit.Decimal.Whole
import RoleAudit.Text.Quoted

/-!
# Settings

A value as a configuration gives it. Settings are not checked for their kind when they are read, so
that they are kept as values of one type.

- `Setting`: the values;
- `Setting.shown`: a value in words, and `Setting.isShowable`: the values that have such words;
- `Setting.kindName`: the name of its kind.
-/

namespace RoleAudit

/-- A value as a configuration gives it. -/
inductive Setting where
  | null
  | bool (b : Bool)
  | int (n : Int)
  | float (x : Float)
  | text (s : String)
  | list (items : List Setting)
  | table (entries : List (Setting × Setting))
  /-- A day. -/
  | date (year month day : Nat)
  /-- A moment: the day, the time with its millionths, and minutes east of Greenwich. -/
  | moment (year month day hour minute second micros : Nat) (zone : Option Int)
  | octets (bytes : List UInt8)
  /-- Distinct values without an order. -/
  | distinct (items : List Setting)
  /-- A pair of values. -/
  | pair (first second : Setting)

instance : Inhabited Setting := ⟨.null⟩

namespace Setting

/-- The name of the kind of a value. -/
def kindName : Setting → String
  | null => "NoneType"
  | bool _ => "bool"
  | int _ => "int"
  | float _ => "float"
  | text _ => "str"
  | list _ => "list"
  | table _ => "dict"
  | date _ _ _ => "datetime.date"
  | moment _ _ _ _ _ _ _ _ => "datetime.datetime"
  | octets _ => "bytes"
  | distinct _ => "set"
  | pair _ _ => "tuple"

/-- The name of the kind of a value, without the group that the kind belongs to. -/
def shortKindName : Setting → String
  | date _ _ _ => "date"
  | moment _ _ _ _ _ _ _ _ => "datetime"
  | v => v.kindName

/-- The text of a value that is a text. -/
def text? : Setting → Option String
  | text s => some s
  | _ => none

/-- The double nearest to a value that is a number. -/
def number? : Setting → Option Float
  | bool b => some (if b then 1.0 else 0.0)
  | int n => some (Decimal.floatOfInt n)
  | float x => some x
  | _ => none

/-- A length of time east of Greenwich in words. -/
def zoneShown (minutes : Int) : String :=
  if minutes == 0 then "datetime.timezone.utc"
  else
    let size := minutes.natAbs
    -- west of Greenwich a length is a day back and seconds forward
    if 0 ≤ minutes then s!"datetime.timezone(datetime.timedelta(seconds={size * 60}))"
    else s!"datetime.timezone(datetime.timedelta(days=-1, seconds={86400 - size * 60}))"

/-- The parts of a time from the hour on, as far as they are shown. -/
def timeShown (hour minute second micros : Nat) : String :=
  s!", {hour}, {minute}" ++
    (if second != 0 || micros != 0 then s!", {second}" else "") ++
    (if micros != 0 then s!", {micros}" else "")

mutual

/-- A value in words. -/
def shown : Setting → String
  | null => "None"
  | bool b => if b then "True" else "False"
  | int n => Decimal.intText n
  | float x => Decimal.floatText x
  | text s => Text.quoted s
  | list items => "[" ++ Text.joinWith ", " (shownAll items) ++ "]"
  | table entries => "\x7b" ++ Text.joinWith ", " (shownEntries entries) ++ "\x7d"
  | date y m d => s!"datetime.date({y}, {m}, {d})"
  | moment y m d h mi s us zone =>
    s!"datetime.datetime({y}, {m}, {d}" ++ timeShown h mi s us ++
      (match zone with
        | some z => ", tzinfo=" ++ zoneShown z
        | none => "") ++ ")"
  | octets bytes => Text.quotedBytes bytes
  | distinct [] => "set()"
  | distinct (i :: rest) =>
    "\x7b" ++ Text.joinWith ", " (shown i :: shownAll rest) ++ "\x7d"
  | pair a b => "(" ++ shown a ++ ", " ++ shown b ++ ")"

def shownAll : List Setting → List String
  | [] => []
  | i :: rest => shown i :: shownAll rest

/-- The entries of a table in words. -/
def shownEntries : List (Setting × Setting) → List String
  | [] => []
  | (k, v) :: rest => (shown k ++ ": " ++ shown v) :: shownEntries rest

end

mutual

/-- A value can be put into words: none of its whole numbers has too many digits. -/
def isShowable : Setting → Bool
  | int n => n.natAbs < 10 ^ Decimal.longestInt
  | list items => areShowable items
  | table entries => areShowableEntries entries
  | distinct items => areShowable items
  | pair a b => isShowable a && isShowable b
  | _ => true

def areShowable : List Setting → Bool
  | [] => true
  | i :: rest => isShowable i && areShowable rest

/-- The entries of a table can be put into words. -/
def areShowableEntries : List (Setting × Setting) → Bool
  | [] => true
  | (k, v) :: rest => isShowable k && isShowable v && areShowableEntries rest

end

end Setting

end RoleAudit
