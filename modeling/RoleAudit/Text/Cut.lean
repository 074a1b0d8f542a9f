/-!
# Cutting and joining text

Operations on texts that look for characters or pieces:

- `pieces`: the stretches between the characters of a class, at least one;
- `cut?`: what stands before and after the first character of a class;
- `startsWith`, `endsWith`, `occursIn`: a text at the start, at the end, or anywhere;
- `joinWith`: texts with a separator between them;
- `swap`: one character replaced by another throughout.
-/

namespace RoleAudit
namespace Text

/-- The stretches between the characters of a class; one more than there are such characters. -/
def pieces (p : Char → Bool) : List Char → List (List Char)
  | [] => [[]]
  | c :: cs =>
    if p c then
      [] :: pieces p cs
    else
      match pieces p cs with
      | [] => [[c]]
      | first :: others => (c :: first) :: others

def splitAt (sep : Char) (s : String) : List String :=
  (pieces (· == sep) s.toList).map String.ofList

/-- The parts before and after the first character of a class. -/
def cut? (p : Char → Bool) : List Char → Option (List Char × List Char)
  | [] => none
  | c :: cs =>
    if p c then some ([], cs) else (cut? p cs).map fun (before, after) => (c :: before, after)

/-- The text `t` stands at the start of `s`. -/
def startsWith (s t : String) : Bool :=
  t.toList.isPrefixOf s.toList

/-- The text `t` stands at the end of `s`. -/
def endsWith (s t : String) : Bool :=
  t.toList.isSuffixOf s.toList

def isWithin (t : List Char) : List Char → Bool
  | [] => t.isEmpty
  | c :: cs => t.isPrefixOf (c :: cs) || isWithin t cs

/-- The text `t` stands somewhere in `s`. -/
def occursIn (s t : String) : Bool :=
  isWithin t.toList s.toList

def dropFirst (s : String) (n : Nat) : String :=
  String.ofList (s.toList.drop n)

def dropLast (s : String) (n : Nat) : String :=
  String.ofList (s.toList.take (s.toList.length - n))

/-- The texts in order, with a separator between neighbours. -/
def joinWith (sep : String) : List String → String
  | [] => ""
  | [s] => s
  | s :: t :: rest => s ++ sep ++ joinWith sep (t :: rest)

def swap (old new : Char) (s : String) : String :=
  String.ofList (s.toList.map fun c => if c == old then new else c)

/-- A text padded with blanks on the right to a least width. -/
def padRight (width : Nat) (s : String) : String :=
  s ++ String.ofList (List.replicate (width - s.toList.length) ' ')

/-- A text padded with blanks on the left to a least width. -/
def padLeft (width : Nat) (s : String) : String :=
  String.ofList (List.replicate (width - s.toList.length) ' ') ++ s

/-- The order of texts by code point, as a test. -/
def atMost (s t : String) : Bool :=
  !decide (t < s)

/-- Insert a text into an ascending list, after the equal ones. -/
def insertSorted (s : String) : List String → List String
  | [] => [s]
  | t :: rest => if s < t then s :: t :: rest else t :: insertSorted s rest

/-- The texts in ascending order by code point. -/
def sorted (texts : List String) : List String :=
  texts.foldl (fun done s => insertSorted s done) []

/-- The distinct texts in order of first appearance. -/
def distinct (texts : List String) : List String :=
  texts.foldl (fun done s => if done.contains s then done else done ++ [s]) []

theorem pieces_ne_nil (p : Char → Bool) (cs : List Char) : pieces p cs ≠ [] := by
  cases cs with
  | nil => simp [pieces]
  | cons c cs =>
    unfold pieces
    split
    · simp
    · split <;> simp

end Text
end RoleAudit
