import Mathlib.Data.List.Basic
import Mathlib.Data.List.Induction
import RoleAudit.Text.Cut

/-!
# Distinct and sorted texts

Taking each text once goes through the texts and adds those that were not taken before; sorting
inserts them one by one. What both do is said for any beginning:

- `mem_foldl_once`, `nodup_foldl_once`: the same members, none of them twice;
- `foldl_once_of_subset`, `foldl_once_of_nodup`: when nothing is added, and when everything is;
- `find?_foldl_once`, `pairwise_foldl_once`: the first one of a kind stays the first one, and all
  stand in the order of their first appearance;
- `Text.nodup_distinct`, `Text.distinct_of_nodup`, `Text.distinct_eq_singleton`: what this says of
  distinct texts;
- `Text.sorted_perm`, `Text.sorted_pairwise`: sorting keeps the texts and puts them in ascending
  order.
-/

namespace RoleAudit

/-! ## Taking each item once -/

section Once

variable {α : Type} [BEq α] [LawfulBEq α]

/-- Taking each item once keeps all of them. -/
theorem mem_foldl_once (items seen : List α) (a : α) :
    a ∈ items.foldl (fun seen b => if seen.contains b then seen else seen ++ [b]) seen ↔
      a ∈ seen ∨ a ∈ items := by
  induction items generalizing seen with
  | nil => simp
  | cons b rest ih =>
      rw [List.foldl_cons, ih, List.mem_cons]
      by_cases hb : b ∈ seen
      · rw [if_pos (List.contains_iff_mem.2 hb)]
        constructor
        · exact Or.imp_right Or.inr
        · rintro (h | rfl | h)
          · exact Or.inl h
          · exact Or.inl hb
          · exact Or.inr h
      · rw [if_neg (by simpa using hb), List.mem_append, List.mem_singleton, or_assoc]

/-- Items that were taken before add nothing. -/
theorem foldl_once_of_subset {items seen : List α} (h : ∀ a ∈ items, a ∈ seen) :
    items.foldl (fun seen b => if seen.contains b then seen else seen ++ [b]) seen = seen := by
  induction items with
  | nil => rfl
  | cons b rest ih =>
      have hb : seen.contains b = true := by simpa using h b List.mem_cons_self
      rw [List.foldl_cons, if_pos hb]
      exact ih fun a ha => h a (List.mem_cons_of_mem b ha)

/-- No item is taken twice. -/
theorem nodup_foldl_once (items : List α) {seen : List α} (h : seen.Nodup) :
    (items.foldl (fun seen b => if seen.contains b then seen else seen ++ [b]) seen).Nodup := by
  induction items generalizing seen with
  | nil => exact h
  | cons b rest ih =>
      rw [List.foldl_cons]
      apply ih
      split
      · exact h
      · rename_i hnew
        refine List.nodup_append.2 ⟨h, by simp, ?_⟩
        intro a ha b' hb' hsame
        rw [hsame, List.mem_singleton.1 hb'] at ha
        exact hnew (List.contains_iff_mem.2 ha)

/-- Items that are distinct are all taken. -/
theorem foldl_once_of_nodup {items seen : List α} (h : (seen ++ items).Nodup) :
    items.foldl (fun seen b => if seen.contains b then seen else seen ++ [b]) seen =
      seen ++ items := by
  induction items generalizing seen with
  | nil => simp
  | cons b rest ih =>
      have hsplit : seen ++ b :: rest = (seen ++ [b]) ++ rest := by simp
      have hnew : ¬ seen.contains b = true := by
        intro hb
        have hapart := (List.nodup_append.1 h).2.2
        exact hapart b (List.contains_iff_mem.1 hb) b List.mem_cons_self rfl
      rw [hsplit] at h
      rw [List.foldl_cons, if_neg hnew, ih h, ← hsplit]

/-- The first item of a kind is the same, because only items that stood before are left out. -/
theorem find?_foldl_once (p : α → Bool) (items seen : List α) :
    (items.foldl (fun seen b => if seen.contains b then seen else seen ++ [b]) seen).find? p =
      (seen.find? p).or (items.find? p) := by
  induction items generalizing seen with
  | nil => simp
  | cons b rest ih =>
      rw [List.foldl_cons, ih, List.find?_cons]
      by_cases hb : b ∈ seen
      · rw [if_pos (List.contains_iff_mem.2 hb)]
        cases hp : p b with
        | false => rfl
        | true =>
            -- `b` is of the kind itself, so that one was found among the items taken before
            have hfound : (seen.find? p).isSome = true := List.find?_isSome.2 ⟨b, hb, hp⟩
            obtain ⟨a, ha⟩ := Option.isSome_iff_exists.1 hfound
            rw [ha, Option.some_or, Option.some_or]
      · rw [if_neg (by simpa using hb), List.find?_append, Option.or_assoc]
        cases hp : p b <;> simp [hp]

/-- The items that are taken stand in the order of their first appearance. -/
theorem pairwise_foldl_once (items : List α) :
    (items.foldl (fun seen b => if seen.contains b then seen else seen ++ [b]) []).Pairwise
      fun a b => items.idxOf a < items.idxOf b := by
  induction items using List.reverseRecOn with
  | nil => exact List.Pairwise.nil
  | append_singleton rest b ih =>
      have hmem : ∀ a, a ∈ rest.foldl (fun seen b =>
          if seen.contains b then seen else seen ++ [b]) [] ↔ a ∈ rest := by
        intro a
        rw [mem_foldl_once]
        simp
      -- what appeared before the last item appears where it did
      have hbefore : ∀ a ∈ rest.foldl (fun seen b =>
          if seen.contains b then seen else seen ++ [b]) [],
          (rest ++ [b]).idxOf a = rest.idxOf a :=
        fun a ha => List.idxOf_append_of_mem ((hmem a).1 ha)
      have hrest := ih.imp_of_mem (S := fun a a' => (rest ++ [b]).idxOf a < (rest ++ [b]).idxOf a')
        fun ha ha' h => by rwa [hbefore _ ha, hbefore _ ha']
      rw [List.foldl_append, List.foldl_cons, List.foldl_nil]
      split
      · exact hrest
      · rename_i hnew
        have hnew : b ∉ rest := fun hb => hnew (List.contains_iff_mem.2 ((hmem b).2 hb))
        refine List.pairwise_append.2 ⟨hrest, List.pairwise_singleton _ b, fun a ha a' ha' => ?_⟩
        have hlast : a' = b := List.mem_singleton.1 ha'
        rw [hbefore a ha, hlast, List.idxOf_append_of_notMem hnew]
        exact Nat.lt_add_right _ (List.idxOf_lt_length_of_mem ((hmem a).1 ha))

end Once

namespace Text

/-! ## Distinct texts -/

theorem mem_distinct (texts : List String) (s : String) : s ∈ distinct texts ↔ s ∈ texts := by
  unfold distinct
  rw [mem_foldl_once]
  simp

theorem nodup_distinct (texts : List String) : (distinct texts).Nodup :=
  nodup_foldl_once texts List.nodup_nil

theorem distinct_of_nodup {texts : List String} (h : texts.Nodup) : distinct texts = texts := by
  have hnone : ([] ++ texts).Nodup := h
  exact foldl_once_of_nodup hnone

/-- Texts that are all the same are one text. -/
theorem distinct_eq_singleton {texts : List String} {text : String} (hne : texts ≠ [])
    (h : ∀ t ∈ texts, t = text) : distinct texts = [text] := by
  cases texts with
  | nil => exact absurd rfl hne
  | cons t rest =>
      have ht : t = text := h t List.mem_cons_self
      subst ht
      have hrest : ∀ s ∈ rest, s ∈ [t] := by
        intro s hs
        exact List.mem_singleton.2 (h s (List.mem_cons_of_mem t hs))
      exact foldl_once_of_subset hrest

/-- Distinct texts stand in the order of their first appearance. -/
theorem pairwise_distinct (texts : List String) :
    (distinct texts).Pairwise fun s t => texts.idxOf s < texts.idxOf t :=
  pairwise_foldl_once texts

/-! ## Sorted texts -/

theorem insertSorted_perm (s : String) (texts : List String) :
    (insertSorted s texts).Perm (s :: texts) := by
  induction texts with
  | nil => exact List.Perm.refl _
  | cons t rest ih =>
      unfold insertSorted
      split
      · exact List.Perm.refl _
      · exact (ih.cons t).trans (List.Perm.swap s t rest)

/-- Sorting keeps the texts. -/
theorem sorted_perm (texts : List String) : (sorted texts).Perm texts := by
  have hfrom : ∀ done : List String,
      (texts.foldl (fun done s => insertSorted s done) done).Perm (texts ++ done) := by
    induction texts with
    | nil => exact List.Perm.refl
    | cons s rest ih =>
        intro done
        have hinserted := (insertSorted_perm s done).append_left rest
        exact ((ih _).trans hinserted).trans List.perm_middle
  have hall := hfrom []
  rwa [List.append_nil] at hall

theorem insertSorted_pairwise {s : String} {texts : List String} (h : texts.Pairwise (· < ·))
    (hs : s ∉ texts) : (insertSorted s texts).Pairwise (· < ·) := by
  induction texts with
  | nil => exact List.pairwise_singleton _ s
  | cons t rest ih =>
      obtain ⟨hfirst, hrest⟩ := List.pairwise_cons.1 h
      unfold insertSorted
      split
      · rename_i hlt
        refine List.pairwise_cons.2 ⟨fun u hu => ?_, h⟩
        rcases List.mem_cons.1 hu with rfl | hu
        · exact hlt
        · exact String.lt_trans hlt (hfirst u hu)
      · rename_i hnot
        -- another text that is not greater is less
        have hne : t ≠ s := fun hts => hs (hts ▸ List.mem_cons_self)
        have hlt : t < s := by
          refine Decidable.byContradiction fun hother => hne ?_
          exact String.le_antisymm (String.not_lt.1 hnot) (String.not_lt.1 hother)
        refine List.pairwise_cons.2 ⟨fun u hu => ?_, ih hrest fun hmem => ?_⟩
        · rcases List.mem_cons.1 ((insertSorted_perm s rest).mem_iff.1 hu) with rfl | hu
          · exact hlt
          · exact hfirst u hu
        · exact hs (List.mem_cons_of_mem t hmem)

/-- Distinct texts are sorted in strictly ascending order. -/
theorem sorted_pairwise {texts : List String} (h : texts.Nodup) :
    (sorted texts).Pairwise (· < ·) := by
  have hfrom : ∀ done : List String, done.Pairwise (· < ·) → (∀ s ∈ texts, s ∉ done) →
      (texts.foldl (fun done s => insertSorted s done) done).Pairwise (· < ·) := by
    induction texts with
    | nil => exact fun done hdone _ => hdone
    | cons s rest ih =>
        intro done hdone hnew
        obtain ⟨hs, hrest⟩ := List.nodup_cons.1 h
        have hinserted := insertSorted_pairwise hdone (hnew s List.mem_cons_self)
        refine ih hrest _ hinserted fun t ht hmem => ?_
        rcases List.mem_cons.1 ((insertSorted_perm s done).mem_iff.1 hmem) with rfl | hmem
        · exact hs ht
        · exact hnew t (List.mem_cons_of_mem s ht) hmem
  exact hfrom [] List.Pairwise.nil fun s _ => List.not_mem_nil

end Text
end RoleAudit
