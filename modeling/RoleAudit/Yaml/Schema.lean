import RoleAudit.Text.Cut

/-!
# Kinds of YAML values

- `Tag`: what a node is said to be;
- `Tag.ofName`: the meaning of a written tag;
- `Tag.ofPlain`: the kind of plain text by its form.

The forms are those of YAML 1.1: a leading zero makes a whole number octal, colons separate digits
to the base sixty, and a fraction needs a point.
-/

namespace RoleAudit
namespace Yaml

/-- What a node is said to be. -/
inductive Tag where
  | null
  | flag
  | whole
  | real
  | moment
  | octets
  | text
  | list
  | table
  /-- A list of tables with one entry each. -/
  | pairs
  /-- Distinct values, written as the keys of a table. -/
  | distinct
  /-- The key that merges tables into another one. -/
  | merge
  | value
  | unknown
  deriving DecidableEq, Repr

namespace Tag

/-- How the names of the usual tags begin. -/
def usualStart : String := "tag:yaml.org,2002:"

def usual : List (String × Tag) :=
  [("null", .null), ("bool", .flag), ("int", .whole), ("float", .real), ("timestamp", .moment),
    ("binary", .octets), ("str", .text), ("seq", .list), ("map", .table), ("omap", .pairs),
    ("pairs", .pairs), ("set", .distinct), ("merge", .merge), ("value", .value)]

def ofName (name : String) : Tag :=
  ((usual.find? fun (n, _) => usualStart ++ n == name).map (·.2)).getD .unknown

/-! ## Forms of plain text -/

def isDigitOrMark (c : Char) : Bool :=
  c.isDigit || c == '_'

def unsigned : List Char → List Char
  | '-' :: cs => cs
  | '+' :: cs => cs
  | cs => cs

/-- A text that is not empty and holds only characters of a class. -/
def someOf (p : Char → Bool) (cs : List Char) : Bool :=
  !cs.isEmpty && cs.all p

/-- The text after a digit and further digits and underscores, if it begins so. -/
def afterDigits? : List Char → Option (List Char)
  | [] => none
  | c :: cs => if c.isDigit then some (cs.dropWhile isDigitOrMark) else none

/-- Parts to the base sixty, each after a colon: what follows them, if there is at least one. -/
def afterSixties? (fuel : Nat) (cs : List Char) : Option (List Char) :=
  match fuel, cs with
  | fuel + 1, ':' :: a :: rest =>
    if !a.isDigit then none
    else
      -- a part is below sixty, so its second digit needs a first one up to five
      let long? : Option (List Char) :=
        match rest with
        | b :: rest => if a ≤ '5' && b.isDigit then some rest else none
        | [] => none
      let rest := long?.getD rest
      match rest with
      | ':' :: _ => afterSixties? fuel rest
      | _ => some rest
  | _, _ => none

/-- An exponent, which needs a sign, or nothing. -/
def isExponent : List Char → Bool
  | [] => true
  | e :: sign :: ds =>
    (e == 'e' || e == 'E') && (sign == '+' || sign == '-') && someOf Char.isDigit ds
  | _ => false

def isWhole (cs : List Char) : Bool :=
  match unsigned cs with
  | ['0'] => true
  | '0' :: 'b' :: ds => someOf (fun c => c == '0' || c == '1' || c == '_') ds
  | '0' :: 'x' :: ds =>
    someOf (fun c => isDigitOrMark c || ('a' ≤ c && c ≤ 'f') || ('A' ≤ c && c ≤ 'F')) ds
  -- an octal number; a text like 08 or 0o7 is none
  | '0' :: ds => someOf (fun c => ('0' ≤ c && c ≤ '7') || c == '_') ds
  | ds =>
    match afterDigits? ds with
    | some [] => true
    | some rest => afterSixties? rest.length rest == some []
    | none => false

def isReal (cs : List Char) : Bool :=
  let ds := unsigned cs
  let fraction (cs : List Char) : Bool := isExponent (cs.dropWhile isDigitOrMark)
  let named := [".inf".toList, ".Inf".toList, ".INF".toList].contains ds ||
    [".nan".toList, ".NaN".toList, ".NAN".toList].contains cs
  let pointed :=
    match cs with
    | '.' :: rest => (afterDigits? rest).any isExponent
    | _ => false
  let long :=
    match afterDigits? ds with
    | some ('.' :: rest) => fraction rest
    | some rest =>
      match afterSixties? rest.length rest with
      | some ('.' :: rest) => rest.all isDigitOrMark
      | _ => false
    | none => false
  named || pointed || long

/-- Digits at the start of a text, at least `low` and at most two, and the text after them. -/
def someDigits? (low : Nat) (cs : List Char) : Option (List Char × List Char) :=
  let ds := (cs.take 2).takeWhile Char.isDigit
  if low ≤ ds.length then some (ds, cs.drop ds.length) else none

/-- The text after a sign, if it begins so. -/
def afterSign? (sign : Char) : List Char → Option (List Char)
  | [] => none
  | c :: cs => if c == sign then some cs else none

structure MomentParts where
  year : List Char
  month : List Char
  day : List Char
  /-- The hour, the minute, the second and the fraction. -/
  time : Option (List Char × List Char × List Char × List Char)
  /-- The hours and the minutes of the zone; its sign, or none at all for the zone of Greenwich. -/
  zone : Option (Option (Bool × List Char × List Char))

def isMomentBlank (c : Char) : Bool :=
  c == ' ' || c == '\t'

/-- The zone at the end of a moment: nothing, Greenwich, or hours and minutes. -/
def zone? (cs : List Char) : Option (Option (Option (Bool × List Char × List Char))) :=
  match cs with
  | [] => some none
  | _ =>
    match cs.dropWhile isMomentBlank with
    | ['Z'] => some (some none)
    | sign :: rest =>
      if sign == '+' || sign == '-' then do
        let (hours, rest) ← someDigits? 1 rest
        let minutes ←
          match rest with
          | [] => some []
          | _ => do
            let (minutes, rest) ← someDigits? 2 (← afterSign? ':' rest)
            if rest.isEmpty then some minutes else none
        return some (some (sign == '-', hours, minutes))
      else none
    | [] => none

def time? (cs : List Char) : Option ((List Char × List Char × List Char × List Char) ×
    Option (Option (Bool × List Char × List Char))) := do
  let rest ←
    match cs with
    | 'T' :: rest => some rest
    | 't' :: rest => some rest
    | c :: rest => if isMomentBlank c then some (rest.dropWhile isMomentBlank) else none
    | [] => none
  let (hour, rest) ← someDigits? 1 rest
  let (minute, rest) ← someDigits? 2 (← afterSign? ':' rest)
  let (second, rest) ← someDigits? 2 (← afterSign? ':' rest)
  let (fraction, rest) :=
    match rest with
    | '.' :: rest => (rest.takeWhile Char.isDigit, rest.dropWhile Char.isDigit)
    | _ => ([], rest)
  let zone ← zone? rest
  return ((hour, minute, second, fraction), zone)

def momentParts? (cs : List Char) : Option MomentParts := do
  let year := cs.take 4
  if !(year.length == 4 && year.all Char.isDigit) then none
  let (month, rest) ← someDigits? 1 (← afterSign? '-' (cs.drop 4))
  let (day, rest) ← someDigits? 1 (← afterSign? '-' rest)
  if rest.isEmpty then return ⟨year, month, day, none, none⟩
  let (time, zone) ← time? rest
  return ⟨year, month, day, some time, zone⟩

/-- The form of a moment; a day alone is written with two digits for the month and for the day. -/
def isMoment (cs : List Char) : Bool :=
  (momentParts? cs).any fun m => m.time.isSome || (m.month.length == 2 && m.day.length == 2)

def flags : List String :=
  ["yes", "Yes", "YES", "no", "No", "NO", "true", "True", "TRUE", "false", "False", "FALSE", "on",
    "On", "ON", "off", "Off", "OFF"]

def nulls : List String := ["", "~", "null", "Null", "NULL"]

/-- The kind of plain text by its form. -/
def ofPlain (s : String) : Tag :=
  let cs := s.toList
  -- the first form that fits counts
  if flags.contains s then .flag
  else if isReal cs then .real
  else if isWhole cs then .whole
  else if s == "<<" then .merge
  else if nulls.contains s then .null
  else if isMoment cs then .moment
  else if s == "=" then .value
  else .text

end Tag

end Yaml
end RoleAudit
