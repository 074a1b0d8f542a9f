import RoleAudit.Decimal.Numeral
import RoleAudit.Setting
import RoleAudit.Text.Base64
import RoleAudit.Text.Case
import RoleAudit.Yaml.Node

/-!
# Values of a YAML document

- `Setting.ofScalar`: the value of a scalar that is said to be of some kind;
- `Setting.ofNode`: the value of a node;
- `Setting.ofYaml`: the value of the only document of a text, null without a document.

A table may merge the entries of others; its own entries count before the merged ones, and those of
a table that is merged first before those of a later one. Of several entries of one key the last
counts and the first tells the place.
-/

namespace RoleAudit

open RoleAudit.Yaml RoleAudit.Text

namespace Setting

/-! ## Numbers -/

/-- The letter after the zero that may begin a whole number to a base. -/
def baseLetters (base : Nat) : List Char :=
  if base == 2 then ['b', 'B']
  else if base == 8 then ['o', 'O']
  else if base == 16 then ['x', 'X']
  else []

def readWhole? (base : Nat) (cs : List Char) : Option Int :=
  let (negative, ds) := Decimal.signOf (Text.trimOf Decimal.isMargin cs)
  let ds :=
    match ds with
    | '0' :: letter :: rest => if (baseLetters base).contains letter then rest else ds
    | _ => ds
  let values := (ds.map Decimal.plainDigit).map fun c => (hexValue? c).filter (· < base)
  if values.isEmpty || values.any Option.isNone then none
  else
    let n : Nat := (values.filterMap id).foldl (fun n d => n * base + d) 0
    some (if negative then -(n : Int) else (n : Int))

/-- A whole number to a base, or the fault of its text. -/
def wholeTo (base : Nat) (cs : List Char) : Except Fault Int :=
  -- only decimal digits are limited in number
  if base == 10 && Decimal.longestInt < cs.length && cs.all Char.isDigit then
    .error (.longWhole cs.length)
  else
    match readWhole? base cs with
    | some n => .ok n
    | none => .error (.badWhole base (String.ofList cs))

/-- The number that digits to the base sixty write, the first one foremost. -/
def sixties (parts : List Int) : Int :=
  parts.foldl (fun n d => n * 60 + d) 0

/-- A text without underscores, and the sign at its start; there must be a character after it. -/
def signedText (s : String) : Except Fault (Bool × List Char) :=
  match s.toList.filter (· != '_') with
  | [] => .error .emptyNumber
  | '-' :: cs => .ok (true, cs)
  | '+' :: cs => .ok (false, cs)
  | cs => .ok (false, cs)

def wholeOf (s : String) : Except Fault Int := do
  let (negative, cs) ← signedText s
  let n ←
    match cs with
    | [] => throw .emptyNumber
    | ['0'] => pure 0
    | '0' :: 'b' :: ds => wholeTo 2 ds
    | '0' :: 'x' :: ds => wholeTo 16 ds
    -- a digit that is not octal is a fault of its own
    | '0' :: _ => wholeTo 8 cs
    | _ =>
      if cs.contains ':' then do
        return sixties (← (pieces (· == ':') cs).mapM (wholeTo 10))
      else wholeTo 10 cs
  return if negative then -n else n

def realTo (cs : List Char) : Except Fault Float :=
  match Decimal.readFloat? (String.ofList cs) with
  | some x => .ok x
  | none => .error (.badReal (String.ofList cs))

/-- The number that digits to the base sixty write, the last one first. -/
def realSixties : (base : Nat) → (sum : Float) → List Float → Float
  | _, sum, [] => sum
  | base, sum, d :: ds => realSixties (base * 60) (sum + d * Decimal.floatOfInt base) ds

/-- The greatest number of digits to the base sixty of a number with a point. -/
def longestSixties : Nat := 174

def realOf (s : String) : Except Fault Float := do
  let (negative, cs) ← signedText (lower s)
  let signed (x : Float) : Float := if negative then -1.0 * x else 1.0 * x
  if cs == ".inf".toList then return signed Decimal.infinity
  else if cs == ".nan".toList then return Decimal.notNumber
  else if cs.contains ':' then
    let parts ← (pieces (· == ':') cs).mapM realTo
    if longestSixties < parts.length then throw .longReal
    return signed (realSixties 1 0.0 parts.reverse)
  else return signed (← realTo cs)

/-! ## Moments -/

def isLeapYear (year : Nat) : Bool :=
  year % 4 == 0 && (year % 100 != 0 || year % 400 == 0)

def daysIn (year month : Nat) : Nat :=
  if month == 2 then (if isLeapYear year then 29 else 28)
  else if [4, 6, 9, 11].contains month then 30
  else 31

def checkDay (year month day : Nat) : Except Fault Unit := do
  if year == 0 then throw (.outOfRange "year 0 is out of range")
  if month == 0 || 12 < month then throw (.outOfRange "month must be in 1..12")
  if day == 0 || daysIn year month < day then
    throw (.outOfRange "day is out of range for month")

def checkTime (hour minute second : Nat) : Except Fault Unit := do
  if 23 < hour then throw (.outOfRange "hour must be in 0..23")
  if 59 < minute then throw (.outOfRange "minute must be in 0..59")
  if 59 < second then throw (.outOfRange "second must be in 0..59")

/-- A length of time in minutes, in words. -/
def lengthShown (minutes : Int) : String :=
  let days := minutes.fdiv 1440
  let seconds := minutes.fmod 1440 * 60
  let parts := (if days == 0 then [] else [s!"days={days}"]) ++
    (if seconds == 0 then [] else [s!"seconds={seconds}"])
  "datetime.timedelta(" ++ (if parts.isEmpty then "0" else joinWith ", " parts) ++ ")"

/-- The minutes east of Greenwich of a zone, which is less than a day away. -/
def zoneOf (zone : Option (Bool × List Char × List Char)) : Except Fault Int :=
  match zone with
  | none => .ok 0
  | some (west, hours, minutes) =>
    let size : Int := Decimal.digitsValue hours * 60 + Decimal.digitsValue minutes
    let east := if west then -size else size
    if size < 1440 then .ok east
    else
      .error (.outOfRange ("offset must be a timedelta strictly between " ++
        "-timedelta(hours=24) and timedelta(hours=24), not " ++ lengthShown east ++ "."))

def millionths (fraction : List Char) : Nat :=
  let ds := fraction.take 6
  Decimal.digitsValue (ds ++ List.replicate (6 - ds.length) '0')

def momentOf (s : String) : Except Fault Setting :=
  match Tag.momentParts? s.toList with
  | none => .error .badMoment
  | some m => do
    let year := Decimal.digitsValue m.year
    let month := Decimal.digitsValue m.month
    let day := Decimal.digitsValue m.day
    match m.time with
    | none =>
      checkDay year month day
      return .date year month day
    | some (hour, minute, second, fraction) =>
      let hour := Decimal.digitsValue hour
      let minute := Decimal.digitsValue minute
      let second := Decimal.digitsValue second
      -- the zone is checked before the day and the time
      let zone ←
        match m.zone with
        | none => pure none
        | some z => some <$> zoneOf z
      checkDay year month day
      checkTime hour minute second
      return .moment year month day hour minute second (millionths fraction) zone

/-! ## Octets -/

def octetsOf (s : String) : Except Fault Setting :=
  if s.toList.all (·.toNat < 128) then
    match Base64.decode? s.toList with
    | some bytes => .ok (.octets bytes)
    | none => .error .malformed
  else .error .malformed

/-! ## Nodes -/

/-- The written truth values in lower case. -/
def flagValues : List (String × Bool) :=
  [("yes", true), ("no", false), ("true", true), ("false", false), ("on", true), ("off", false)]

def ofScalar (tag : Tag) (s : String) : Except Fault Setting :=
  match tag with
  | .null => .ok .null
  | .flag =>
    match flagValues.lookup (lower s) with
    | some b => .ok (.bool b)
    | none => .error (.badFlag (lower s))
  | .whole => (wholeOf s).map .int
  | .real => (realOf s).map .float
  | .moment => momentOf s
  | .octets => octetsOf s
  | .text => .ok (.text s)
  | _ => .error .malformed

/-- Two keys of a table are the same; numbers are by their value. -/
def sameKey (a b : Setting) : Bool :=
  match a, b with
  | null, null => true
  | text s, text t => s == t
  | octets s, octets t => s == t
  | date y m d, date y' m' d' => y == y' && m == m' && d == d'
  | int m, int n => m == n
  -- values of one kind first; the rest below compares numbers across kinds
  | float x, float y => x == y || (x.isNaN && y.isNaN)
  | moment .., moment .. => a.shown == b.shown
  | _, _ =>
    match a.number?, b.number? with
    | some x, some y => x == y
    | _, _ => false

def isKey : Setting → Bool
  | list _ => false
  | table _ => false
  | distinct _ => false
  | _ => true

/-- Give a key a value; a known key keeps its place. -/
def putEntry (key value : Setting) : List (Setting × Setting) → List (Setting × Setting)
  | [] => [(key, value)]
  | (k, v) :: rest =>
    if sameKey k key then (k, value) :: rest else (k, v) :: putEntry key value rest

/-- A table from entries; later entries of a key replace earlier ones. -/
def tableFrom (entries : List (Setting × Setting)) : List (Setting × Setting) :=
  entries.foldl (fun table (k, v) => putEntry k v table) []

mutual

/-- The text of a scalar, or of the value of a table that has one. -/
def scalarText? : Node → Option String
  | .scalar _ s => some s
  | .sequence _ _ => none
  | .mapping _ entries => valueText? entries

/-- The text of the first entry that is the value of its table. -/
def valueText? : List (Node × Node) → Option String
  | [] => none
  | (k, v) :: rest => if k.tag == .value then scalarText? v else valueText? rest

end

mutual

def ofNode : Node → Except Fault Setting
  | .scalar tag s => ofScalar tag s
  | .sequence tag items =>
    match tag with
    | .list => (ofNodes items).map .list
    | .pairs => (pairsOf items).map .list
    | _ => .error .malformed
  | .mapping tag entries =>
    match tag with
    | .table => (entriesOf entries).map fun (merged, own) => .table (tableFrom (merged ++ own))
    | .distinct => (entriesOf entries).map fun (merged, own) =>
        .distinct ((tableFrom (merged ++ own)).map (·.1))
    | .list => .error .malformed
    | .pairs => .error .malformed
    | _ =>
      -- a table that is said to be a scalar is its value
      match valueText? entries with
      | some s => ofScalar tag s
      | none => .error .malformed

def ofNodes : List Node → Except Fault (List Setting)
  | [] => .ok []
  | n :: rest => do
    let value ← ofNode n
    return value :: (← ofNodes rest)

def pairsOf : List Node → Except Fault (List Setting)
  | [] => .ok []
  | .mapping _ [(k, v)] :: rest => do
    let key ← ofNode k
    let value ← ofNode v
    return .pair key value :: (← pairsOf rest)
  | _ :: _ => .error .malformed

/-- The entries that a table merges, and its own. -/
def entriesOf : List (Node × Node) →
    Except Fault (List (Setting × Setting) × List (Setting × Setting))
  | [] => .ok ([], [])
  | (k, v) :: rest =>
    if k.tag == .merge then do
      let here ← mergedOf v
      let (merged, own) ← entriesOf rest
      -- an earlier merge stands first, so a later one replaces its entries
      return (here ++ merged, own)
    else do
      let key ←
        match k with
        | .scalar .value s => pure (.text s)
        | k => ofNode k
      if !key.isKey then throw .malformed
      let value ← ofNode v
      let (merged, own) ← entriesOf rest
      return (merged, (key, value) :: own)

/-- The entries of a table to merge, or of several ones. -/
def mergedOf : Node → Except Fault (List (Setting × Setting))
  | .mapping _ entries => (entriesOf entries).map fun (merged, own) => merged ++ own
  | .sequence _ items => mergedFrom items
  | .scalar _ _ => .error .malformed

/-- The entries of several tables to merge, those of the last table first. -/
def mergedFrom : List Node → Except Fault (List (Setting × Setting))
  | [] => .ok []
  | .mapping _ entries :: rest => do
    let (merged, own) ← entriesOf entries
    return (← mergedFrom rest) ++ (merged ++ own)
  | _ :: _ => .error .malformed

end

/-- The value of the only document of a text; null without a document. -/
def ofYaml (s : String) : Except Fault Setting := do
  match ← Node.ofTokens (Token.scan s) with
  | some n => ofNode n
  | none => return .null

/-- A value that counts as nothing. -/
def isBlankValue : Setting → Bool
  | null => true
  | bool b => !b
  | int n => n == 0
  | float x => x == 0.0
  | text s => s.isEmpty
  | list items => items.isEmpty
  | table entries => entries.isEmpty
  | octets bytes => bytes.isEmpty
  | distinct items => items.isEmpty
  | _ => false

end Setting

end RoleAudit
