import RoleAudit.Proofs.Reconciliation.Difference
import RoleAudit.Proofs.Text.Spelling

/-!
# Reconciliation of other spellings

Rules and permissions may be spelled in other ways without a change of verdict: in another case, with
other blanks in their conditions.

- `Permission.Variant`: a permission in another spelling, which matches the permission;
- `unmatchedPlaces`: where the members stand that a side of a reconciliation reports, with
  `filterMap_unmatchedPlaces` for what it reports;
- `reconcile_variants`: both sides report the same places for other spellings, and count as many
  matches.
-/

namespace RoleAudit

namespace Permission

/-- Two permissions that differ in the case of ASCII letters and in the blanks of the condition. -/
structure Variant (p q : Permission) : Prop where
  role : Text.CaseVariant p.role q.role
  action : Text.CaseVariant p.action q.action
  resource : Text.CaseVariant p.resource q.resource
  condition : Text.BlankVariant p.condition.toList q.condition.toList

theorem variant_iff {p q : Permission} :
    p.Variant q ↔
      Text.CaseVariant p.role q.role ∧ Text.CaseVariant p.action q.action ∧
        Text.CaseVariant p.resource q.resource ∧
        Text.BlankVariant p.condition.toList q.condition.toList :=
  ⟨fun h => ⟨h.role, h.action, h.resource, h.condition⟩,
    fun ⟨hrole, haction, hresource, hcondition⟩ => ⟨hrole, haction, hresource, hcondition⟩⟩

instance : DecidableRel Variant := fun _ _ => decidable_of_iff _ variant_iff.symm

theorem Variant.matches {p q : Permission} (h : p.Variant q) : p.Matches q :=
  ⟨h.role.lower_eq, h.action.upper_eq, h.resource.lower_eq, h.condition.squeeze_eq⟩

end Permission

open Permission

/-! ## Places -/

/-- Where the members of the first list stand that match no member of the second. -/
def unmatchedPlaces (these others : List Permission) : List Nat :=
  these.findIdxs fun p => !others.any fun q => decide (p.Matches q)

/-- What stays unmatched are the members at these places. -/
theorem filterMap_unmatchedPlaces (these others : List Permission) :
    (unmatchedPlaces these others).filterMap (these[·]?) = unmatched these others := by
  unfold unmatchedPlaces unmatched
  generalize (fun p : Permission => !others.any fun q => decide (p.Matches q)) = test
  induction these with
  | nil => rfl
  | cons p rest ih =>
      -- the places in the rest are counted from one on
      have hrest : ((rest.findIdxs test (0 + 1)).filterMap ((p :: rest)[·]?)) =
          rest.filter test := by
        rw [List.findIdxs_start, List.filterMap_map, ← ih]
        exact List.filterMap_congr fun i _ => List.getElem?_cons_succ
      rw [List.findIdxs_cons, List.filter_cons]
      split
      · rw [List.filterMap_cons_some List.getElem?_cons_zero, hrest]
      · exact hrest

/-- The unmatched places depend on both lists only through matching. -/
theorem unmatchedPlaces_congr {these these' others others' : List Permission}
    (hthese : List.Forall₂ Matches these these') (hothers : SameClasses others others') :
    unmatchedPlaces these' others' = unmatchedPlaces these others := by
  unfold unmatchedPlaces
  generalize 0 = first
  induction hthese generalizing first with
  | nil => rfl
  | @cons p p' rest rest' hp _ ih =>
      have hclass : (∃ q ∈ others', p'.Matches q) ↔ ∃ q ∈ others, p.Matches q :=
        calc (∃ q ∈ others', p'.Matches q)
            ↔ ∃ q ∈ others, p'.Matches q := (hothers.exists_matches_iff p').symm
          _ ↔ ∃ q ∈ others, p.Matches q :=
              exists_congr fun q => and_congr_right fun _ => hp.symm.congr (Matches.refl q)
      rw [List.findIdxs_cons, List.findIdxs_cons, any_matches_congr hclass, ih]

/-- There are as many matches as members that are not reported. -/
theorem length_matching (these others : List Permission) :
    (matching these others).length = these.length - (unmatchedPlaces these others).length := by
  have hparts := List.length_eq_countP_add_countP
    (fun p : Permission => others.any fun q => decide (p.Matches q)) (l := these)
  unfold matching unmatchedPlaces
  rw [List.length_findIdxs, ← List.countP_eq_length_filter]
  simp only [Bool.not_eq_true, Bool.decide_eq_false] at hparts
  omega

/-! ## Both sides -/

/--
A reconciliation reports its members by their places. For rules and permissions in other spellings,
entry by entry, it reports the same places on both sides and counts the same matches.
-/
theorem reconcile_variants (rules rules' permissions permissions' : List Permission)
    (hrules : List.Forall₂ Variant rules rules')
    (hpermissions : List.Forall₂ Variant permissions permissions') :
    (∀ rules permissions : List Permission,
      (reconcile rules permissions).redundant =
          (unmatchedPlaces permissions rules).filterMap (permissions[·]?) ∧
        (reconcile rules permissions).lacking =
          (unmatchedPlaces rules permissions).filterMap (rules[·]?)) ∧
      unmatchedPlaces permissions' rules' = unmatchedPlaces permissions rules ∧
      unmatchedPlaces rules' permissions' = unmatchedPlaces rules permissions ∧
      matchedRules rules' permissions' = matchedRules rules permissions ∧
      matchedPermissions rules' permissions' = matchedPermissions rules permissions := by
  have hsameRules : List.Forall₂ Matches rules rules' := hrules.imp fun _ _ h => h.matches
  have hsamePermissions : List.Forall₂ Matches permissions permissions' :=
    hpermissions.imp fun _ _ h => h.matches
  have hredundant : unmatchedPlaces permissions' rules' = unmatchedPlaces permissions rules :=
    unmatchedPlaces_congr hsamePermissions (sameClasses_of_forall₂ hsameRules)
  have hlacking : unmatchedPlaces rules' permissions' = unmatchedPlaces rules permissions :=
    unmatchedPlaces_congr hsameRules (sameClasses_of_forall₂ hsamePermissions)
  refine ⟨fun rules permissions => ⟨?_, ?_⟩, hredundant, hlacking, ?_, ?_⟩
  · exact (filterMap_unmatchedPlaces permissions rules).symm
  · exact (filterMap_unmatchedPlaces rules permissions).symm
  · unfold matchedRules
    rw [length_matching, length_matching, hlacking, hrules.length_eq]
  · unfold matchedPermissions
    rw [length_matching, length_matching, hredundant, hpermissions.length_eq]

/-- A rule for a Greek role, which ends in a sigma, and a rule that nothing implements. -/
def greekRules : List Permission :=
  [⟨"ΡΟΛΟΣ", "get", "Account", "a == b"⟩, ⟨"ΡΟΛΟΣa", "get", "Account", ""⟩]

/-- The same rules in another spelling. -/
def spelledGreekRules : List Permission :=
  [⟨"ΡΟΛΟΣ", "GET", "account", "a==\tb "⟩, ⟨"ΡΟΛΟΣA", "gET", "aCCOUNT", "\n"⟩]

/-- What implements the first of them, in a third spelling. -/
def greekPermissions : List Permission :=
  [⟨"ρολος", "Get", "ACCOUNT", "a== b"⟩]

theorem reconcile_variants_greekRules :
    List.Forall₂ Variant greekRules spelledGreekRules ∧
      unmatchedPlaces greekRules greekPermissions = [1] ∧
      unmatchedPlaces spelledGreekRules greekPermissions = [1] ∧
      matchedRules spelledGreekRules greekPermissions = 1 := by
  have hrules : List.Forall₂ Variant greekRules spelledGreekRules := by decide +kernel
  have hpermissions : List.Forall₂ Variant greekPermissions greekPermissions := by decide +kernel
  obtain ⟨-, -, hlacking, hmatched, -⟩ := reconcile_variants greekRules spelledGreekRules
    greekPermissions greekPermissions hrules hpermissions
  have hplaces : unmatchedPlaces greekRules greekPermissions = [1] := by decide +kernel
  refine ⟨hrules, hplaces, hlacking.trans hplaces, hmatched.trans ?_⟩
  decide +kernel

end RoleAudit
