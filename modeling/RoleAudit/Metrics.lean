import RoleAudit.Decimal.Fixed
import RoleAudit.Reconciliation

/-!
# Metrics

The counts of a reconciliation and the share of the declared rules that is implemented, in percent
with one place. Where nothing is declared the share is zero.
-/

namespace RoleAudit

/-- The counts of a reconciliation. -/
structure Metrics where
  declared : Nat
  implemented : Nat
  matched : Nat
  redundant : Nat
  lacking : Nat
  /-- Percentage of the declared rules that are implemented. -/
  coverage : Float

namespace Metrics

/-- The percentage `matched / declared` with one place. -/
def coverageOf (matched declared : Nat) : Float :=
  if declared == 0 then 0.0
  else Decimal.roundTo 1 ((matched * 100).toFloat / declared.toFloat)

def ofReconciliation (rules permissions : List Permission) (r : Reconciliation) : Metrics where
  declared := rules.length
  implemented := permissions.length
  matched := matchedRules rules permissions
  redundant := r.redundant.length
  lacking := r.lacking.length
  coverage := coverageOf (matchedRules rules permissions) rules.length

def summary (m : Metrics) : String :=
  "Declared: " ++ Decimal.natText m.declared ++
    "  Implemented: " ++ Decimal.natText m.implemented ++
    "  Matched: " ++ Decimal.natText m.matched ++
    "  Redundant: " ++ Decimal.natText m.redundant ++
    "  Lacking: " ++ Decimal.natText m.lacking ++
    "  Coverage: " ++ Decimal.floatText m.coverage ++ "%"

end Metrics
end RoleAudit
