import RoleAudit.Permission
import RoleAudit.Text.Blank
import RoleAudit.Text.Case

/-!
# Reconciliation

The comparison of declared rules with implemented permissions.

- `Permission.Matches`: equal role, action and resource but for case, and equal conditions but for
  blanks;
- `reconcile`: what is implemented and not declared, and what is declared and not implemented;
- `matchedRules`, `matchedPermissions`: the intersection, counted from either side.
-/

namespace RoleAudit

open RoleAudit.Text

/-- What two permissions have in common when they match. -/
structure MatchKey where
  role : String
  action : String
  resource : String
  condition : String
  deriving DecidableEq, Repr

namespace Permission

/-- Role and resource in lower case, action in upper case, condition without blanks. -/
def matchKey (p : Permission) : MatchKey where
  role := lower p.role
  action := upper p.action
  resource := lower p.resource
  condition := squeeze p.condition

/-- Two permissions grant the same. -/
def Matches (p q : Permission) : Prop :=
  lower p.role = lower q.role ∧ upper p.action = upper q.action ∧
    lower p.resource = lower q.resource ∧ squeeze p.condition = squeeze q.condition

instance : DecidableRel Matches := fun p q => by
  unfold Matches
  infer_instance

theorem matches_iff_matchKey_eq (p q : Permission) :
    p.Matches q ↔ p.matchKey = q.matchKey := by
  simp [Matches, matchKey]

end Permission

/-- The difference of what is implemented and what is declared, in both directions. -/
structure Reconciliation where
  /-- Implemented and not declared. -/
  redundant : List Permission
  /-- Declared and not implemented. -/
  lacking : List Permission
  deriving DecidableEq, Repr

/-- The members of the first list that match no member of the second. -/
def unmatched (these others : List Permission) : List Permission :=
  these.filter fun p => !others.any fun q => decide (p.Matches q)

/-- The members of the first list that match some member of the second. -/
def matching (these others : List Permission) : List Permission :=
  these.filter fun p => others.any fun q => decide (p.Matches q)

def reconcile (rules permissions : List Permission) : Reconciliation where
  redundant := unmatched permissions rules
  lacking := unmatched rules permissions

/-- How many rules some permission implements. -/
def matchedRules (rules permissions : List Permission) : Nat :=
  (matching rules permissions).length

/-- How many permissions some rule declares. -/
def matchedPermissions (rules permissions : List Permission) : Nat :=
  (matching permissions rules).length

end RoleAudit
