import Mathlib.Data.List.Nodup
import RoleAudit.Metrics
import RoleAudit.Proofs.Reconciliation.Difference

/-!
# The counts of a reconciliation

Each list falls into the members that match something of the other list and the members that match
nothing. The metrics report one number of matches, taken from the rules:

- `length_matching_add_unmatched`: the two parts of a list make up the list;
- `Balanced`: lists that meet each class they share equally often;
- `Balanced.matching_perm`: such lists have the same matches, class by class;
- `metrics_add_up`: the declared side always adds up, the implemented side with the matches taken
  from the permissions, and with the reported ones exactly when the two numbers agree.
-/

namespace RoleAudit

open Permission

/-! ## Two parts of one list -/

theorem length_matching_add_unmatched (these others : List Permission) :
    (matching these others).length + (unmatched these others).length = these.length :=
  (List.length_eq_length_filter_add _).symm

/-- The classes that a list meets, each as often as it meets it. -/
def classesOf (these : List Permission) : List MatchKey :=
  these.map matchKey

theorem any_matches_eq_mem_classesOf (p : Permission) (others : List Permission) :
    (others.any fun q => decide (p.Matches q)) = decide (p.matchKey ∈ classesOf others) := by
  have hiff : (∃ q ∈ others, p.Matches q) ↔ p.matchKey ∈ classesOf others := by
    simp only [classesOf, List.mem_map, matches_iff_matchKey_eq]
    exact exists_congr fun q => and_congr_right fun _ => eq_comm
  have hany := any_matches_iff p others
  rw [hiff] at hany
  exact Bool.eq_iff_iff.2 (hany.trans decide_eq_true_iff.symm)

/-- Whether a member is a match can be read off its class. -/
theorem classesOf_matching (these others : List Permission) :
    classesOf (matching these others) =
      (classesOf these).filter fun k => decide (k ∈ classesOf others) := by
  have hkept : matching these others =
      these.filter ((fun k => decide (k ∈ classesOf others)) ∘ matchKey) :=
    List.filter_congr fun p _ => any_matches_eq_mem_classesOf p others
  calc
    classesOf (matching these others) = (these.filter _).map matchKey := by rw [hkept]; rfl
    _ = (classesOf these).filter fun k => decide (k ∈ classesOf others) :=
      List.filter_map.symm

/-! ## Lists that meet their common classes equally often -/

/-- Each class that both lists meet is met by both equally often. -/
def Balanced (these others : List Permission) : Prop :=
  ∀ k ∈ classesOf these, k ∈ classesOf others →
    (classesOf these).count k = (classesOf others).count k

instance (these others : List Permission) : Decidable (Balanced these others) :=
  inferInstanceAs (Decidable (∀ k ∈ classesOf these, k ∈ classesOf others →
    (classesOf these).count k = (classesOf others).count k))

theorem Balanced.matching_perm {these others : List Permission} (h : Balanced these others) :
    (classesOf (matching these others)).Perm (classesOf (matching others these)) := by
  rw [List.perm_iff_count, classesOf_matching, classesOf_matching]
  intro k
  -- A class that one list lacks is dropped on both sides.
  by_cases hthese : k ∈ classesOf these
  · by_cases hothers : k ∈ classesOf others
    · calc
        ((classesOf these).filter fun k => decide (k ∈ classesOf others)).count k
            = (classesOf these).count k := List.count_filter (by simpa using hothers)
        _ = (classesOf others).count k := h k hthese hothers
        _ = ((classesOf others).filter fun k => decide (k ∈ classesOf these)).count k :=
          (List.count_filter (by simpa using hthese)).symm
    · rw [List.count_eq_zero_of_not_mem (by simp [hothers]),
        List.count_eq_zero_of_not_mem (by simp [hothers])]
  · rw [List.count_eq_zero_of_not_mem (by simp [hthese]),
      List.count_eq_zero_of_not_mem (by simp [hthese])]

/-- Balanced lists have as many matches from either side. -/
theorem Balanced.matchedRules_eq {rules permissions : List Permission}
    (h : Balanced rules permissions) :
    matchedRules rules permissions = matchedPermissions rules permissions := by
  have hlength := h.matching_perm.length_eq
  simpa [classesOf, matchedRules, matchedPermissions] using hlength

/-! ## The report -/

/--
The declared rules are the matched and the lacking ones. The implemented permissions are the
redundant ones and those that match a rule; the report counts the matches among the rules, so its
implemented side adds up exactly where both ways of counting agree, as they do for balanced lists.
-/
theorem metrics_add_up (rules permissions : List Permission) :
    let m := Metrics.ofReconciliation rules permissions (reconcile rules permissions)
    m.declared = m.matched + m.lacking ∧
      m.implemented = matchedPermissions rules permissions + m.redundant ∧
      (m.implemented = m.matched + m.redundant ↔
        matchedRules rules permissions = matchedPermissions rules permissions) ∧
      (Balanced rules permissions → m.implemented = m.matched + m.redundant) := by
  intro m
  have hdeclared : m.declared = m.matched + m.lacking :=
    (length_matching_add_unmatched rules permissions).symm
  have himplemented : m.implemented = matchedPermissions rules permissions + m.redundant :=
    (length_matching_add_unmatched permissions rules).symm
  have hmatched : m.matched = matchedRules rules permissions := rfl
  refine ⟨hdeclared, himplemented, ?_, ?_⟩
  · omega
  · intro hbalanced
    have hsame := hbalanced.matchedRules_eq
    omega

/-- A rule twice, and a permission that implements it in two controllers. -/
def sharedTwice : List Permission × List Permission :=
  ([spelledRules.1, spelledRules.1], [spelledRules.2, ⟨"ADMIN", "DELETE", "account", ""⟩,
    spelledRules.2])

theorem metrics_add_up_sharedTwice :
    let m := Metrics.ofReconciliation sharedTwice.1 sharedTwice.2
      (reconcile sharedTwice.1 sharedTwice.2)
    Balanced sharedTwice.1 sharedTwice.2 ∧ m.implemented = m.matched + m.redundant := by
  intro m
  have hbalanced : Balanced sharedTwice.1 sharedTwice.2 := by decide +kernel
  exact ⟨hbalanced, (metrics_add_up sharedTwice.1 sharedTwice.2).2.2.2 hbalanced⟩

/-- One rule that two permissions implement: two permissions, one match, nothing redundant. -/
theorem implemented_ne_matched_add_redundant :
    ¬ ∀ rules permissions : List Permission,
      let m := Metrics.ofReconciliation rules permissions (reconcile rules permissions)
      m.declared = m.matched + m.lacking ∧ m.implemented = m.matched + m.redundant := by
  intro h
  have hone := (h [spelledRules.1] [spelledRules.1, spelledRules.2]).2
  have hmatched : matchedRules [spelledRules.1] [spelledRules.1, spelledRules.2] = 1 := by
    decide +kernel
  have hredundant : unmatched [spelledRules.1, spelledRules.2] [spelledRules.1] = [] := by
    decide +kernel
  simp [Metrics.ofReconciliation, reconcile, hmatched, hredundant] at hone

end RoleAudit
