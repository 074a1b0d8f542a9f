import Mathlib.Data.List.Forall2
import RoleAudit.Text.Blank
import RoleAudit.Text.Case

/-!
# Other spellings of a text

The comparison of permissions looks neither at the case of letters nor at blanks. The case mappings
are not made character by character: the lower case of a capital sigma depends on what stands around
it, and the upper case of a character may be longer. They still give one result for texts that differ
only in the case of ASCII letters, whatever else the texts hold.

- `CaseFlip`, `CaseVariant`: one character and one text with ASCII letters in another case;
- `CaseFlip.congr`: a mapping that takes the 26 pairs of letters together sees no flip;
- `CaseVariant.lower_eq`, `CaseVariant.upper_eq`: so both case mappings see none;
- `BlankVariant`, `blankVariant_iff`: a text with blanks put in and taken out anywhere is one with
  the same other characters, so `BlankVariant.squeeze_eq`.
-/

namespace RoleAudit
namespace Text

/-! ## Letters in another case -/

/-- A character, or the same ASCII letter in the other case. -/
inductive CaseFlip : Char → Char → Prop where
  | same (c : Char) : CaseFlip c c
  | lowered {c : Char} (h : c.isUpper = true) : CaseFlip c c.toLower
  | raised {c : Char} (h : c.isLower = true) : CaseFlip c c.toUpper

/-- A capital letter and its small form are one of 26 pairs. -/
theorem exists_pair_of_isUpper {c : Char} (h : c.isUpper = true) :
    ∃ k < 26, c = Char.ofNat (65 + k) ∧ c.toLower = Char.ofNat (97 + k) := by
  have hrange : 65 ≤ c.toNat ∧ c.toNat ≤ 90 := by
    change decide (65 ≤ c.val ∧ c.val ≤ 90) = true at h
    simpa [UInt32.le_iff_toNat_le] using h
  have hletters : ∀ k < 26, (Char.ofNat (65 + k)).toLower = Char.ofNat (97 + k) := by
    decide +kernel
  have hc : Char.ofNat (65 + (c.toNat - 65)) = c := by
    rw [show 65 + (c.toNat - 65) = c.toNat by omega, Char.ofNat_toNat]
  refine ⟨c.toNat - 65, by omega, hc.symm, ?_⟩
  rw [← hletters (c.toNat - 65) (by omega), hc]

/-- A small letter and its capital form are one of the same pairs. -/
theorem exists_pair_of_isLower {c : Char} (h : c.isLower = true) :
    ∃ k < 26, c = Char.ofNat (97 + k) ∧ c.toUpper = Char.ofNat (65 + k) := by
  have hrange : 97 ≤ c.toNat ∧ c.toNat ≤ 122 := by
    change (decide (97 ≤ c.val) && decide (c.val ≤ 122)) = true at h
    simpa [UInt32.le_iff_toNat_le] using h
  have hletters : ∀ k < 26, (Char.ofNat (97 + k)).toUpper = Char.ofNat (65 + k) := by
    decide +kernel
  have hc : Char.ofNat (97 + (c.toNat - 97)) = c := by
    rw [show 97 + (c.toNat - 97) = c.toNat by omega, Char.ofNat_toNat]
  refine ⟨c.toNat - 97, by omega, hc.symm, ?_⟩
  rw [← hletters (c.toNat - 97) (by omega), hc]

theorem caseFlip_iff {c d : Char} :
    CaseFlip c d ↔
      d = c ∨ (c.isUpper = true ∧ d = c.toLower) ∨ (c.isLower = true ∧ d = c.toUpper) := by
  constructor
  · rintro (_ | h | h)
    · exact .inl rfl
    · exact .inr (.inl ⟨h, rfl⟩)
    · exact .inr (.inr ⟨h, rfl⟩)
  · rintro (rfl | ⟨h, rfl⟩ | ⟨h, rfl⟩)
    · exact .same d
    · exact .lowered h
    · exact .raised h

instance : DecidableRel CaseFlip := fun _ _ => decidable_of_iff _ caseFlip_iff.symm

/-- What takes the two letters of each pair together does not see a flip. -/
theorem CaseFlip.congr {α : Type} (f : Char → α)
    (hpairs : ∀ k < 26, f (Char.ofNat (65 + k)) = f (Char.ofNat (97 + k))) {c d : Char}
    (h : CaseFlip c d) : f c = f d := by
  cases h with
  | same => rfl
  | lowered h =>
      obtain ⟨k, hk, hc, hlower⟩ := exists_pair_of_isUpper h
      calc f c = f (Char.ofNat (65 + k)) := by rw [← hc]
        _ = f (Char.ofNat (97 + k)) := hpairs k hk
        _ = f c.toLower := by rw [hlower]
  | raised h =>
      obtain ⟨k, hk, hc, hupper⟩ := exists_pair_of_isLower h
      calc f c = f (Char.ofNat (97 + k)) := by rw [← hc]
        _ = f (Char.ofNat (65 + k)) := (hpairs k hk).symm
        _ = f c.toUpper := by rw [hupper]

/-- Ranges around the letters hold none of them. -/
theorem inRanges_letter_eq_false (ranges : List (Nat × Nat))
    (haround : ∀ r ∈ ranges, r.2 < 65 ∨ 90 < r.1 ∧ r.2 < 97 ∨ 122 < r.1) {k : Nat} (hk : k < 26) :
    inRanges ranges (65 + k) = false ∧ inRanges ranges (97 + k) = false := by
  unfold inRanges
  constructor
  · refine List.any_eq_false.mpr fun r hr => ?_
    have := haround r hr
    simp only [Bool.and_eq_true, decide_eq_true_eq]
    omega
  · refine List.any_eq_false.mpr fun r hr => ?_
    have := haround r hr
    simp only [Bool.and_eq_true, decide_eq_true_eq]
    omega

namespace CaseFlip

variable {c d : Char} (h : CaseFlip c d)

include h

theorem lowerChar_eq : lowerChar c = lowerChar d :=
  h.congr lowerChar (by decide +kernel)

theorem upperChar_eq : upperChar c = upperChar d :=
  h.congr upperChar (by decide +kernel)

theorem isSigma_eq : (c.toNat == 0x3a3) = (d.toNat == 0x3a3) :=
  h.congr (fun c => c.toNat == 0x3a3) (by decide +kernel)

theorem isIgnorable_eq :
    inRanges caseIgnorableRanges c.toNat = inRanges caseIgnorableRanges d.toNat := by
  have hcodes : ∀ k < 26, (Char.ofNat (65 + k)).toNat = 65 + k ∧
      (Char.ofNat (97 + k)).toNat = 97 + k := by decide +kernel
  refine h.congr (fun c => inRanges caseIgnorableRanges c.toNat) fun k hk => ?_
  have hno := inRanges_letter_eq_false caseIgnorableRanges (by decide +kernel) hk
  rw [(hcodes k hk).1, (hcodes k hk).2, hno.1, hno.2]

theorem isCased_eq : inRanges casedRanges c.toNat = inRanges casedRanges d.toNat :=
  h.congr (fun c => inRanges casedRanges c.toNat) (by decide +kernel)

end CaseFlip

/-- Whether a cased character comes next is not seen by a flip, so a sigma ends a word or not. -/
theorem meetsCased_eq {cs ds : List Char} (h : List.Forall₂ CaseFlip cs ds) :
    meetsCased cs = meetsCased ds := by
  induction h with
  | nil => rfl
  | @cons c d cs ds hcd _ ih =>
      unfold meetsCased at ih ⊢
      rw [List.dropWhile_cons, List.dropWhile_cons, hcd.isIgnorable_eq]
      cases inRanges caseIgnorableRanges d.toNat with
      | true => exact ih
      | false => exact hcd.isCased_eq

/-- The lower case of a list is not changed by flips in it or before it. -/
theorem lowerAfter_eq {cs ds : List Char} (h : List.Forall₂ CaseFlip cs ds)
    {before before' : List Char} (hbefore : List.Forall₂ CaseFlip before before') :
    lowerAfter before cs = lowerAfter before' ds := by
  induction h generalizing before before' with
  | nil => rfl
  | @cons c d cs ds hcd hrest ih =>
      have hafter := ih (.cons hcd hbefore)
      unfold lowerAfter
      rw [hcd.isSigma_eq, hcd.lowerChar_eq, meetsCased_eq hbefore, meetsCased_eq hrest, hafter]

/-- The upper case of a list is not changed by flips in it. -/
theorem flatMap_upperChar_eq {cs ds : List Char} (h : List.Forall₂ CaseFlip cs ds) :
    cs.flatMap upperChar = ds.flatMap upperChar := by
  induction h with
  | nil => rfl
  | cons hcd _ ih => rw [List.flatMap_cons, List.flatMap_cons, hcd.upperChar_eq, ih]

/-- Two texts that differ only in the case of ASCII letters. -/
def CaseVariant (s t : String) : Prop :=
  List.Forall₂ CaseFlip s.toList t.toList

instance : DecidableRel CaseVariant := fun s t =>
  inferInstanceAs (Decidable (List.Forall₂ CaseFlip s.toList t.toList))

namespace CaseVariant

variable {s t : String}

theorem lower_eq (h : CaseVariant s t) : lower s = lower t := by
  unfold lower
  rw [lowerAfter_eq h .nil]

theorem upper_eq (h : CaseVariant s t) : upper s = upper t := by
  unfold upper
  rw [flatMap_upperChar_eq h]

end CaseVariant

/-! ## Blanks -/

/-- A list of characters, and the same one with blanks put in and taken out anywhere. -/
inductive BlankVariant : List Char → List Char → Prop where
  | nil : BlankVariant [] []
  | keep {cs ds : List Char} (c : Char) (h : BlankVariant cs ds) : BlankVariant (c :: cs) (c :: ds)
  | insert {cs ds : List Char} {blank : Char} (hblank : isBlank blank = true)
      (h : BlankVariant cs ds) : BlankVariant cs (blank :: ds)
  | delete {cs ds : List Char} {blank : Char} (hblank : isBlank blank = true)
      (h : BlankVariant cs ds) : BlankVariant (blank :: cs) ds

/-- The other characters are the same. -/
theorem BlankVariant.filter_eq {cs ds : List Char} (h : BlankVariant cs ds) :
    cs.filter (fun c => !isBlank c) = ds.filter fun c => !isBlank c := by
  induction h with
  | nil => rfl
  | keep c _ ih => rw [List.filter_cons, List.filter_cons, ih]
  | insert hblank _ ih => rw [ih, List.filter_cons_of_neg (by simp [hblank])]
  | delete hblank _ ih => rw [← ih, List.filter_cons_of_neg (by simp [hblank])]

theorem blankVariant_iff {cs ds : List Char} :
    BlankVariant cs ds ↔
      cs.filter (fun c => !isBlank c) = ds.filter fun c => !isBlank c := by
  refine ⟨BlankVariant.filter_eq, fun h => ?_⟩
  induction cs generalizing ds with
  | nil =>
      induction ds with
      | nil => exact .nil
      | cons d ds ih =>
          have hd : isBlank d = true := by
            simpa using List.filter_eq_nil_iff.mp h.symm d List.mem_cons_self
          rw [List.filter_cons_of_neg (by simp [hd])] at h
          exact .insert hd (ih h)
  | cons c cs ih =>
      cases hc : isBlank c with
      | true =>
          rw [List.filter_cons_of_neg (by simp [hc])] at h
          exact .delete hc (ih h)
      | false =>
          rw [List.filter_cons_of_pos (by simp [hc])] at h
          -- what stands before the same character in the other text is blank
          induction ds with
          | nil => exact absurd h (by simp)
          | cons d ds ihd =>
              cases hd : isBlank d with
              | true =>
                  rw [List.filter_cons_of_neg (by simp [hd])] at h
                  exact .insert hd (ihd h)
              | false =>
                  rw [List.filter_cons_of_pos (by simp [hd]), List.cons.injEq] at h
                  obtain ⟨rfl, hrest⟩ := h
                  exact .keep c (ih hrest)

instance : DecidableRel BlankVariant := fun _ _ => decidable_of_iff _ blankVariant_iff.symm

theorem BlankVariant.squeeze_eq {s t : String} (h : BlankVariant s.toList t.toList) :
    squeeze s = squeeze t := by
  unfold squeeze
  rw [h.filter_eq]

end Text
end RoleAudit
