import RoleAudit.Text.Alike
import RoleAudit.Text.Blank
import RoleAudit.Text.Class

/-!
# Class definitions in text

Whether a text defines a class: the word `class`, blanks, and the name as a whole word.

- `boundary`: the place between two characters of which just one belongs to a word;
- `ClassMatcher`: the name exactly, or whatever its case.
-/

namespace RoleAudit

/-- How a class name is compared with a text. -/
inductive ClassMatcher where
  | exact
  | anyCase
  deriving DecidableEq, Repr

/-- A word begins or ends between two characters; there may be none on either side. -/
def boundary (before after : Option Char) : Bool :=
  before.any Text.isWord != after.any Text.isWord

namespace ClassMatcher

/-- Characters that count as one. -/
def same : ClassMatcher → Char → Char → Bool
  | exact, c, d => c == d
  | anyCase, c, d => Text.alike c d

/-- The rest of a text after a word that it starts with, and the last character before the rest. -/
def after? (m : ClassMatcher) :
    List Char → Option Char → List Char → Option (Option Char × List Char)
  | [], last, cs => some (last, cs)
  | _ :: _, _, [] => none
  | w :: ws, _, c :: cs => if m.same w c then m.after? ws (some c) cs else none

/-- The name stands here and ends at a boundary. -/
def namesHere (m : ClassMatcher) (name : List Char) (last : Option Char) (cs : List Char) : Bool :=
  match m.after? name last cs with
  | some (last, rest) => boundary last rest.head?
  | none => false

/-- The name follows after one blank or more. -/
def namesAfterBlanks (m : ClassMatcher) (name : List Char) : List Char → Bool
  | [] => false
  | c :: cs => Text.isBlank c && (m.namesHere name (some c) cs || m.namesAfterBlanks name cs)

/-- A definition of the class begins here. -/
def definesHere (m : ClassMatcher) (name : List Char) (before : Option Char) (cs : List Char) :
    Bool :=
  -- the word `class` begins here, and no word goes on
  boundary before cs.head? &&
    match m.after? "class".toList before cs with
    | some (_, rest) => m.namesAfterBlanks name rest
    | none => false

/-- A definition of the class begins here or later. -/
def definesFrom (m : ClassMatcher) (name : List Char) : Option Char → List Char → Bool
  | before, [] => m.definesHere name before []
  | before, c :: cs => m.definesHere name before (c :: cs) || m.definesFrom name (some c) cs

def defines (m : ClassMatcher) (content name : String) : Bool :=
  m.definesFrom name.toList none content.toList

end ClassMatcher

end RoleAudit
