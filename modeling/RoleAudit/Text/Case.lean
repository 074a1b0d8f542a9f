import RoleAudit.Text.Case.Table
import RoleAudit.Text.Class

/-!
# Letter case

The full case mappings of Unicode, which may change the length of a text:

- `lower`: lower case; a capital sigma becomes a final sigma at the end of a word;
- `upper`: upper case; a sharp s becomes two letters;
- `lowerSimple`: the one-character lower case of a character.
-/

namespace RoleAudit
namespace Text

/-- The image of a code point under a table of runs, if it has one. -/
def runImage? (runs : List CaseRun) (n : Nat) : Option Nat :=
  (runs.find? fun r => r.first ≤ n && n ≤ r.last && (n - r.first) % r.step == 0).map
    fun r => r.image + (n - r.first)

/-- The one-character lower case; a dotted capital I gives a plain i. -/
def lowerSimple (c : Char) : Char :=
  if c.toNat < 128 then c.toLower
  else if c.toNat == 0x130 then 'i'
  else
    match runImage? lowerRuns c.toNat with
    | some n => Char.ofNat n
    | none => c

/-- The lower case of a character regardless of its place; a dotted capital I keeps its dot. -/
def lowerChar (c : Char) : List Char :=
  if c.toNat == 0x130 then ['i', Char.ofNat 0x307] else [lowerSimple c]

def upperChar (c : Char) : List Char :=
  if c.toNat < 128 then [c.toUpper]
  else
    match upperExpansions.find? fun entry => entry.1 == c.toNat with
    | some (_, image) => image.map Char.ofNat
    | none =>
      match runImage? upperRuns c.toNat with
      | some n => [Char.ofNat n]
      | none => [c]

/-- The first character that is not case-ignorable is cased. -/
def meetsCased (cs : List Char) : Bool :=
  match cs.dropWhile fun c => inRanges caseIgnorableRanges c.toNat with
  | [] => false
  | c :: _ => inRanges casedRanges c.toNat

/-- Lower case of a list, given the characters before it from the nearest backwards. -/
def lowerAfter (before : List Char) : List Char → List Char
  | [] => []
  | c :: cs =>
    -- a sigma at the end of a word has a form of its own
    (if c.toNat == 0x3a3 then
        [if meetsCased before && !meetsCased cs then Char.ofNat 0x3c2 else Char.ofNat 0x3c3]
      else
        lowerChar c) ++
      lowerAfter (c :: before) cs

/-- The lower case of a text. -/
def lower (s : String) : String :=
  String.ofList (lowerAfter [] s.toList)

def upper (s : String) : String :=
  String.ofList (s.toList.flatMap upperChar)

end Text
end RoleAudit
