/-!
# Ordered lists

`ordered` puts a list in order by a test of whether one member may stand before another one. Members
that may stand either way keep their order.
-/

namespace RoleAudit

variable {α : Type}

/-- Insert a member before the first one that it may stand before. -/
def insertOrdered (before : α → α → Bool) (a : α) : List α → List α
  | [] => [a]
  | b :: rest => if before a b then a :: b :: rest else b :: insertOrdered before a rest

/-- The members of a list in order. -/
def ordered (before : α → α → Bool) (items : List α) : List α :=
  items.foldr (insertOrdered before) []

variable {before : α → α → Bool}

theorem insertOrdered_perm (a : α) (items : List α) :
    (insertOrdered before a items).Perm (a :: items) := by
  induction items with
  | nil => exact List.Perm.refl _
  | cons b rest ih =>
    unfold insertOrdered
    split
    · exact List.Perm.refl _
    · exact (ih.cons b).trans (List.Perm.swap a b rest)

/-- Ordering a list keeps its members. -/
theorem ordered_perm (items : List α) : (ordered before items).Perm items := by
  induction items with
  | nil => exact List.Perm.refl _
  | cons a rest ih => exact (insertOrdered_perm a _).trans (ih.cons a)

theorem insertOrdered_pairwise (total : ∀ a b, before a b ∨ before b a)
    (trans : ∀ a b c, before a b → before b c → before a c) (a : α) {items : List α}
    (h : items.Pairwise fun b c => before b c) :
    (insertOrdered before a items).Pairwise fun b c => before b c := by
  induction items with
  | nil => exact List.pairwise_singleton _ a
  | cons b rest ih =>
    have hrest := List.pairwise_cons.1 h
    unfold insertOrdered
    split
    · rename_i hab
      refine List.pairwise_cons.2 ⟨fun c hc => ?_, h⟩
      rcases List.mem_cons.1 hc with rfl | hc
      · exact hab
      · exact trans a b c hab (hrest.1 c hc)
    · rename_i hab
      refine List.pairwise_cons.2 ⟨fun c hc => ?_, ih hrest.2⟩
      rcases List.mem_cons.1 ((insertOrdered_perm a rest).mem_iff.1 hc) with rfl | hc
      · exact (total b c).resolve_right hab
      · exact hrest.1 c hc

/-- In an ordered list every member may stand before all that follow it. -/
theorem ordered_pairwise (total : ∀ a b, before a b ∨ before b a)
    (trans : ∀ a b c, before a b → before b c → before a c) (items : List α) :
    (ordered before items).Pairwise fun b c => before b c := by
  induction items with
  | nil => exact List.Pairwise.nil
  | cons a rest ih => exact insertOrdered_pairwise total trans a ih

/-- What is in order is left as it is. -/
theorem ordered_of_pairwise {items : List α} (h : items.Pairwise fun b c => before b c) :
    ordered before items = items := by
  induction items with
  | nil => rfl
  | cons a rest ih =>
    have hrest := List.pairwise_cons.1 h
    have hinsert : ordered before (a :: rest) = insertOrdered before a rest :=
      congrArg (insertOrdered before a) (ih hrest.2)
    rw [hinsert]
    cases rest with
    | nil => rfl
    | cons b rest => rw [insertOrdered, if_pos (hrest.1 b List.mem_cons_self)]

theorem insertOrdered_map {f : α → α} (h : ∀ a b, before (f a) (f b) = before a b) (a : α)
    (items : List α) :
    insertOrdered before (f a) (items.map f) = (insertOrdered before a items).map f := by
  induction items with
  | nil => rfl
  | cons b rest ih =>
    rw [List.map_cons, insertOrdered, insertOrdered, h, ih]
    split <;> rfl

/-- A change of the members that leaves the test as it is leaves the order as it is. -/
theorem ordered_map {f : α → α} (h : ∀ a b, before (f a) (f b) = before a b) (items : List α) :
    ordered before (items.map f) = (ordered before items).map f := by
  induction items with
  | nil => rfl
  | cons a rest ih =>
    have hinsert : ordered before ((a :: rest).map f) =
        insertOrdered before (f a) ((ordered before rest).map f) :=
      congrArg (insertOrdered before (f a)) ih
    rw [hinsert, insertOrdered_map h]
    rfl

end RoleAudit
