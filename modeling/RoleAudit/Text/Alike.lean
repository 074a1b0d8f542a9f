import RoleAudit.Text.Case

/-!
# Characters alike but for case

`alike c d` compares two characters without regard to case: by their one-character lower case, or
because their lower-case forms share one upper-case form, as the long s and the plain s do.
-/

namespace RoleAudit
namespace Text

/-- Two characters are equal but for case. -/
def alike (c d : Char) : Bool :=
  let l := (lowerSimple c).toNat
  let m := (lowerSimple d).toNat
  -- some characters have one lower case only together with others
  l == m || alikeGroups.any fun group => group.contains l && group.contains m

/-- A list of characters stands, but for case, at the start of another one. -/
def startsAlike : List Char → List Char → Bool
  | [], _ => true
  | _ :: _, [] => false
  | c :: cs, d :: ds => alike c d && startsAlike cs ds

end Text
end RoleAudit
