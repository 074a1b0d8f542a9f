import Mathlib.Data.Finset.Card
import RoleAudit.Proofs.Reconciliation.Difference

/-!
# The classes that both sides share

Entries may be spelled differently and stand in a list several times, so the matches counted from the
rules and those counted from the permissions need not be equally many. The classes are:

- `Permission.MatchClass`: the classes of `Permission.Matches`, as a quotient;
- `matchClasses`: the distinct classes of a list, with `matchClasses_matching`: what is matched meets
  exactly the shared classes;
- `Unshared`: no two entries of a list match a common entry of the other list;
- `card_matchClasses_comm`: both sides meet equally many classes, each count of entries is this number
  exactly for unshared lists, and so the two counts agree where both lists are unshared.
-/

namespace RoleAudit

namespace Permission

/-- Permissions that match stand in one class. -/
def matchSetoid : Setoid Permission :=
  ⟨Matches, matches_equivalence⟩

/-- A class of permissions that match. -/
abbrev MatchClass : Type :=
  Quotient matchSetoid

instance : DecidableEq MatchClass :=
  @Quotient.decidableEq _ matchSetoid (inferInstanceAs (DecidableRel Matches))

def matchClass (p : Permission) : MatchClass :=
  Quotient.mk matchSetoid p

theorem matchClass_eq_iff {p q : Permission} : p.matchClass = q.matchClass ↔ p.Matches q :=
  Quotient.eq (r := matchSetoid)

end Permission

open Permission

/-! ## Shared classes -/

/-- The distinct classes of a list. -/
def matchClasses (these : List Permission) : Finset MatchClass :=
  (these.map matchClass).toFinset

theorem mem_matchClasses {c : MatchClass} {these : List Permission} :
    c ∈ matchClasses these ↔ ∃ p ∈ these, p.matchClass = c := by
  simp [matchClasses]

theorem mem_matching {p : Permission} {these others : List Permission} :
    p ∈ matching these others ↔ p ∈ these ∧ ∃ q ∈ others, p.Matches q := by
  simp [matching]

/-- The matched entries of a list meet the classes that it shares with the other list. -/
theorem matchClasses_matching (these others : List Permission) :
    matchClasses (matching these others) = matchClasses these ∩ matchClasses others := by
  ext c
  simp only [Finset.mem_inter, mem_matchClasses, mem_matching]
  constructor
  · rintro ⟨p, ⟨hp, q, hq, hpq⟩, rfl⟩
    exact ⟨⟨p, hp, rfl⟩, q, hq, (matchClass_eq_iff.2 hpq).symm⟩
  · rintro ⟨⟨p, hp, rfl⟩, q, hq, hqp⟩
    exact ⟨p, ⟨hp, q, hq, matchClass_eq_iff.1 hqp.symm⟩, rfl⟩

/-! ## Lists that meet each shared class once -/

/-- No two entries of the first list match a common entry of the second. -/
def Unshared (these others : List Permission) : Prop :=
  these.Pairwise fun p p' => ¬ ∃ q ∈ others, p.Matches q ∧ p'.Matches q

instance (these others : List Permission) : Decidable (Unshared these others) :=
  inferInstanceAs (Decidable (these.Pairwise fun p p' =>
    ¬ ∃ q ∈ others, p.Matches q ∧ p'.Matches q))

/-- Two entries share a match if both have one and they are in one class. -/
theorem exists_common_match_iff {p p' : Permission} {others : List Permission} :
    (∃ q ∈ others, p.Matches q ∧ p'.Matches q) ↔
      (∃ q ∈ others, p.Matches q) ∧ (∃ q ∈ others, p'.Matches q) ∧
        p.matchClass = p'.matchClass := by
  constructor
  · rintro ⟨q, hq, hpq, hpq'⟩
    exact ⟨⟨q, hq, hpq⟩, ⟨q, hq, hpq'⟩, matchClass_eq_iff.2 (hpq.trans hpq'.symm)⟩
  · rintro ⟨⟨q, hq, hpq⟩, -, hclass⟩
    exact ⟨q, hq, hpq, (matchClass_eq_iff.1 hclass).symm.trans hpq⟩

/-- A list is unshared if its matched entries stand in distinct classes. -/
theorem unshared_iff_nodup {these others : List Permission} :
    Unshared these others ↔ ((matching these others).map matchClass).Nodup := by
  -- two entries in one class count only where both are matched, so the filter can go inside
  have hpairs : Unshared these others ↔ these.Pairwise fun p p' =>
      (others.any fun q => decide (p.Matches q)) = true →
        (others.any fun q => decide (p'.Matches q)) = true → p.matchClass ≠ p'.matchClass := by
    refine List.Pairwise.iff fun p p' => ?_
    simp only [any_matches_iff, exists_common_match_iff, not_and, ne_eq]
  calc
    Unshared these others
        ↔ _ := hpairs
    _ ↔ (matching these others).Pairwise fun p p' => p.matchClass ≠ p'.matchClass :=
        List.pairwise_filter.symm
    _ ↔ ((matching these others).map matchClass).Nodup := List.pairwise_map.symm

/-- The matched entries are as many as their classes exactly if the list is unshared. -/
theorem length_matching_eq_card_iff (these others : List Permission) :
    (matching these others).length = (matchClasses (matching these others)).card ↔
      Unshared these others := by
  have hcard : (matchClasses (matching these others)).card =
      ((matching these others).map matchClass).dedup.length :=
    List.card_toFinset _
  rw [unshared_iff_nodup, hcard]
  constructor
  · intro h
    have hall : ((matching these others).map matchClass).dedup =
        (matching these others).map matchClass := by
      refine (List.dedup_sublist _).eq_of_length ?_
      rw [← h, List.length_map]
    exact List.dedup_eq_self.1 hall
  · intro h
    rw [List.dedup_eq_self.2 h, List.length_map]

/-! ## Both directions -/

/--
Counted from either side, the intersection of rules and permissions has the same number of classes.
The number of matched entries of a side is this number exactly if no two of its entries match a common
entry of the other side; so both numbers agree if that holds on both sides.
-/
theorem card_matchClasses_comm (rules permissions : List Permission) :
    (matchClasses (matching rules permissions)).card =
        (matchClasses (matching permissions rules)).card ∧
      (matchedRules rules permissions = (matchClasses (matching rules permissions)).card ↔
        Unshared rules permissions) ∧
      (matchedPermissions rules permissions = (matchClasses (matching permissions rules)).card ↔
        Unshared permissions rules) ∧
      (Unshared rules permissions → Unshared permissions rules →
        matchedRules rules permissions = matchedPermissions rules permissions) := by
  have hsame : (matchClasses (matching rules permissions)).card =
      (matchClasses (matching permissions rules)).card := by
    simp only [matchClasses_matching, Finset.inter_comm]
  have hrules := length_matching_eq_card_iff rules permissions
  have hpermissions := length_matching_eq_card_iff permissions rules
  refine ⟨hsame, hrules, hpermissions, fun hunshared hunshared' => ?_⟩
  calc
    matchedRules rules permissions
        = (matchClasses (matching rules permissions)).card := hrules.2 hunshared
    _ = (matchClasses (matching permissions rules)).card := hsame
    _ = matchedPermissions rules permissions := (hpermissions.2 hunshared').symm

/-- Two rules, of which one is implemented in another spelling, and a permission that no rule has. -/
def crossedLists : List Permission × List Permission :=
  ([spelledRules.1, ⟨"Admin", "delete", "Account", ""⟩],
    [⟨"ADMIN", "PUT", "account", ""⟩, spelledRules.2])

theorem card_matchClasses_comm_crossedLists :
    Unshared crossedLists.1 crossedLists.2 ∧ Unshared crossedLists.2 crossedLists.1 ∧
      matchedRules crossedLists.1 crossedLists.2 =
        matchedPermissions crossedLists.1 crossedLists.2 := by
  have hrules : Unshared crossedLists.1 crossedLists.2 := by decide +kernel
  have hpermissions : Unshared crossedLists.2 crossedLists.1 := by decide +kernel
  exact ⟨hrules, hpermissions,
    (card_matchClasses_comm crossedLists.1 crossedLists.2).2.2.2 hrules hpermissions⟩

end RoleAudit
