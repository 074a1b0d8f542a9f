import Mathlib.Data.List.Forall2
import RoleAudit.Reconciliation

/-!
# Reconciliation as a difference of two sides

Matching divides permissions into classes. Each side of a reconciliation keeps the members of one
list whose class the other list does not meet:

- `Permission.matches_equivalence`: matching is an equivalence;
- `UnmatchedPart`: what it means that a list is the part of another one that stays unmatched;
- `reconcile_isDifference`: both sides are such parts, and they depend on the lists only through
  matching.
-/

namespace RoleAudit

namespace Permission

theorem Matches.refl (p : Permission) : p.Matches p :=
  ⟨rfl, rfl, rfl, rfl⟩

theorem Matches.symm {p q : Permission} (h : p.Matches q) : q.Matches p :=
  (matches_iff_matchKey_eq q p).2 ((matches_iff_matchKey_eq p q).1 h).symm

theorem Matches.trans {p q r : Permission} (h₁ : p.Matches q) (h₂ : q.Matches r) : p.Matches r :=
  (matches_iff_matchKey_eq p r).2
    (((matches_iff_matchKey_eq p q).1 h₁).trans ((matches_iff_matchKey_eq q r).1 h₂))

theorem matches_equivalence : Equivalence Matches :=
  ⟨Matches.refl, Matches.symm, Matches.trans⟩

theorem matches_comm (p q : Permission) : p.Matches q ↔ q.Matches p :=
  ⟨Matches.symm, Matches.symm⟩

/-- Permissions that match meet the same classes. -/
theorem Matches.congr {p p' q q' : Permission} (hp : p.Matches p') (hq : q.Matches q') :
    p.Matches q ↔ p'.Matches q' := by
  constructor
  · intro h
    exact (hp.symm.trans h).trans hq
  · intro h
    exact (hp.trans h).trans hq.symm

end Permission

open Permission

/-! ## The unmatched part of a list -/

/-- A list is the part of `these` that no member of `others` matches, in order and each as often. -/
structure UnmatchedPart (these others part : List Permission) : Prop where
  mem_iff : ∀ p, p ∈ part ↔ p ∈ these ∧ ∀ q ∈ others, ¬ q.Matches p
  sublist : part.Sublist these
  count_eq : ∀ p, part.count p = if ∃ q ∈ others, q.Matches p then 0 else these.count p

/-- Every class that one list meets is met by the other one. -/
def SameClasses (these others : List Permission) : Prop :=
  (∀ p ∈ these, ∃ q ∈ others, p.Matches q) ∧ ∀ q ∈ others, ∃ p ∈ these, p.Matches q

theorem sameClasses_of_mem_iff {these others : List Permission}
    (h : ∀ p, p ∈ these ↔ p ∈ others) : SameClasses these others := by
  refine ⟨fun p hp => ⟨p, (h p).1 hp, Matches.refl p⟩, fun q hq => ⟨q, (h q).2 hq, Matches.refl q⟩⟩

theorem sameClasses_of_forall₂ {these others : List Permission}
    (h : List.Forall₂ Matches these others) : SameClasses these others := by
  induction h with
  | nil => exact ⟨by simp, by simp⟩
  | @cons p q ps qs hpq _ ih =>
      rcases ih with ⟨hleft, hright⟩
      constructor
      · intro a ha
        rcases List.mem_cons.1 ha with rfl | ha
        · exact ⟨q, by simp, hpq⟩
        · rcases hleft a ha with ⟨b, hb, hab⟩
          exact ⟨b, by simp [hb], hab⟩
      · intro b hb
        rcases List.mem_cons.1 hb with rfl | hb
        · exact ⟨p, by simp, hpq⟩
        · rcases hright b hb with ⟨a, ha, hab⟩
          exact ⟨a, by simp [ha], hab⟩

/-- Lists that meet the same classes match the same permissions. -/
theorem SameClasses.exists_matches_iff {these others : List Permission}
    (h : SameClasses these others) (p : Permission) :
    (∃ q ∈ these, p.Matches q) ↔ ∃ q ∈ others, p.Matches q := by
  constructor
  · rintro ⟨q, hq, hpq⟩
    rcases h.1 q hq with ⟨r, hr, hqr⟩
    exact ⟨r, hr, hpq.trans hqr⟩
  · rintro ⟨r, hr, hpr⟩
    rcases h.2 r hr with ⟨q, hq, hqr⟩
    exact ⟨q, hq, hpr.trans hqr.symm⟩

theorem any_matches_iff (p : Permission) (others : List Permission) :
    (others.any fun q => decide (p.Matches q)) = true ↔ ∃ q ∈ others, p.Matches q := by
  simp [List.any_eq_true]

/-- Whether some member matches depends on the classes that are met only. -/
theorem any_matches_congr {p p' : Permission} {others others' : List Permission}
    (h : (∃ q ∈ others, p.Matches q) ↔ ∃ q ∈ others', p'.Matches q) :
    (others.any fun q => decide (p.Matches q)) = others'.any fun q => decide (p'.Matches q) := by
  rw [Bool.eq_iff_iff, any_matches_iff, any_matches_iff]
  exact h

theorem unmatchedPart_unmatched (these others : List Permission) :
    UnmatchedPart these others (unmatched these others) where
  mem_iff p := by
    have hcomm : ∀ q : Permission, ¬ q.Matches p ↔ ¬ p.Matches q := fun q =>
      not_congr (matches_comm q p)
    simp [unmatched, hcomm]
  sublist := List.filter_sublist
  count_eq p := by
    -- all copies of a permission are kept, or none of them is
    by_cases h : ∃ q ∈ others, q.Matches p
    · have hnot : p ∉ unmatched these others := by
        rcases h with ⟨q, hq, hqp⟩
        have hany := (any_matches_iff p others).2 ⟨q, hq, hqp.symm⟩
        simp [unmatched, hany]
      rw [if_pos h, List.count_eq_zero_of_not_mem hnot]
    · have hany : (others.any fun q => decide (p.Matches q)) = false := by
        rw [Bool.eq_false_iff, Ne, any_matches_iff]
        rintro ⟨q, hq, hpq⟩
        exact h ⟨q, hq, hpq.symm⟩
      rw [if_neg h, unmatched, List.count_filter]
      simp [hany]

/-- The unmatched part depends on the other list only through the classes that it meets. -/
theorem unmatched_congr_right (these : List Permission) {others others' : List Permission}
    (h : SameClasses others others') : unmatched these others = unmatched these others' := by
  refine List.filter_congr fun p _ => ?_
  rw [any_matches_congr (h.exists_matches_iff p)]

/-- What is left of a part of a list is a part of what is left of the list. -/
theorem unmatched_sublist_left (others : List Permission) {these' these : List Permission}
    (h : these'.Sublist these) : (unmatched these' others).Sublist (unmatched these others) :=
  h.filter _

/-- More stays unmatched if there is less to match. -/
theorem unmatched_sublist_right (these : List Permission) {others' others : List Permission}
    (h : ∀ q ∈ others', q ∈ others) :
    (unmatched these others).Sublist (unmatched these others') := by
  refine List.monotone_filter_right these fun p hp => ?_
  have hnone : ¬ ∃ q ∈ others, p.Matches q := by
    rw [← any_matches_iff]
    simpa using hp
  have hnone' : ¬ ∃ q ∈ others', p.Matches q := by
    rintro ⟨q, hq, hpq⟩
    exact hnone ⟨q, h q hq, hpq⟩
  rw [← any_matches_iff] at hnone'
  simpa using hnone'

/-- Members that match are kept or dropped together. -/
theorem unmatched_forall₂ (others : List Permission) {these these' : List Permission}
    (h : List.Forall₂ Matches these these') :
    List.Forall₂ Matches (unmatched these others) (unmatched these' others) := by
  induction h with
  | nil => exact List.Forall₂.nil
  | @cons p p' ps ps' hp _ ih =>
      have hsame : (∃ q ∈ others, p.Matches q) ↔ ∃ q ∈ others, p'.Matches q :=
        exists_congr fun q => and_congr_right fun _ => hp.congr (Matches.refl q)
      unfold unmatched at ih ⊢
      rw [List.filter_cons, List.filter_cons, any_matches_congr hsame]
      split
      · exact List.Forall₂.cons hp ih
      · exact ih

/-! ## Both sides -/

/--
A reconciliation is the difference of its two lists in both directions. Exchanging the lists
exchanges the sides; a side does not see how often and in which order the other list meets a class,
and entries that match can stand for each other.
-/
theorem reconcile_isDifference :
    Equivalence Matches ∧
    ∀ rules permissions : List Permission,
      UnmatchedPart permissions rules (reconcile rules permissions).redundant ∧
      UnmatchedPart rules permissions (reconcile rules permissions).lacking ∧
      (reconcile permissions rules).redundant = (reconcile rules permissions).lacking ∧
      (reconcile permissions rules).lacking = (reconcile rules permissions).redundant ∧
      (∀ rules', (∀ r, r ∈ rules' ↔ r ∈ rules) →
        (reconcile rules' permissions).redundant = (reconcile rules permissions).redundant) ∧
      (∀ permissions', (∀ p, p ∈ permissions' ↔ p ∈ permissions) →
        (reconcile rules permissions').lacking = (reconcile rules permissions).lacking) ∧
      (∀ rules' permissions', List.Forall₂ Matches rules rules' →
        List.Forall₂ Matches permissions permissions' →
        List.Forall₂ Matches (reconcile rules permissions).redundant
          (reconcile rules' permissions').redundant ∧
        List.Forall₂ Matches (reconcile rules permissions).lacking
          (reconcile rules' permissions').lacking) := by
  refine ⟨matches_equivalence, fun rules permissions => ?_⟩
  refine ⟨unmatchedPart_unmatched permissions rules, unmatchedPart_unmatched rules permissions,
    rfl, rfl, ?_, ?_, ?_⟩
  · intro rules' h
    exact unmatched_congr_right permissions (sameClasses_of_mem_iff h)
  · intro permissions' h
    exact unmatched_congr_right rules (sameClasses_of_mem_iff h)
  · intro rules' permissions' hr hp
    have hredundant := unmatched_congr_right permissions (sameClasses_of_forall₂ hr)
    have hlacking := unmatched_congr_right rules (sameClasses_of_forall₂ hp)
    unfold reconcile
    dsimp only
    rw [hredundant, hlacking]
    exact ⟨unmatched_forall₂ rules' hp, unmatched_forall₂ permissions' hr⟩

/-- A rule and the same rule in another spelling. -/
def spelledRules : Permission × Permission :=
  (⟨"Admin", "get", "Account", "a == b"⟩, ⟨"ADMIN", "GET", "account", "a==b"⟩)

theorem reconcile_isDifference_spelledRules :
    (reconcile [spelledRules.1, spelledRules.1] [spelledRules.2]).redundant =
        (reconcile [spelledRules.1] [spelledRules.2]).redundant ∧
      (reconcile [spelledRules.1] [spelledRules.2, spelledRules.2]).lacking =
        (reconcile [spelledRules.1] [spelledRules.2]).lacking ∧
      List.Forall₂ Matches (reconcile [spelledRules.1] []).lacking
        (reconcile [spelledRules.2] []).lacking := by
  have hspelled : spelledRules.1.Matches spelledRules.2 := by decide +kernel
  have h := reconcile_isDifference.2 [spelledRules.1] [spelledRules.2]
  have hempty := reconcile_isDifference.2 [spelledRules.1] []
  refine ⟨h.2.2.2.2.1 _ (by simp), h.2.2.2.2.2.1 _ (by simp), ?_⟩
  exact (hempty.2.2.2.2.2.2 _ _ (List.Forall₂.cons hspelled List.Forall₂.nil)
    List.Forall₂.nil).2

end RoleAudit
