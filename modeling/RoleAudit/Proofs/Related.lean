import Mathlib.Data.List.Forall2
import Mathlib.Data.Option.Basic

/-!
# Related lists and options

What is read alike from the items of two related lists is read alike from the lists.

- `map_eq_of_forall₂`, `filterMap_eq_of_forall₂`, `bind_eq_of_rel`: readings that are the same;
- `forall₂_filter`, `rel_find?`, `rel_head?`, `rel_getLast?`: choices that are related again;
- `forall₂_and_mem`: related items with where they come from.
-/

namespace RoleAudit

section Lists

variable {α β : Type} {related : α → α → Prop} {items items' : List α}
  (h : List.Forall₂ related items items')

include h

theorem map_eq_of_forall₂ {f : α → β} (hf : ∀ a a', related a a' → f a' = f a) :
    items'.map f = items.map f := by
  induction h with
  | nil => rfl
  | cons hab _ ih => rw [List.map_cons, List.map_cons, hf _ _ hab, ih]

theorem filterMap_eq_of_forall₂ {f : α → Option β} (hf : ∀ a a', related a a' → f a' = f a) :
    items'.filterMap f = items.filterMap f := by
  induction h with
  | nil => rfl
  | cons hab _ ih => rw [List.filterMap_cons, List.filterMap_cons, hf _ _ hab, ih]

theorem forall₂_filter (keeps : α → Bool) (hkeeps : ∀ a a', related a a' → keeps a' = keeps a) :
    List.Forall₂ related (items.filter keeps) (items'.filter keeps) :=
  List.rel_filter (fun a a' hab => Bool.eq_iff_iff.1 (hkeeps a a' hab).symm) h

theorem forall₂_and_mem :
    List.Forall₂ (fun a a' => related a a' ∧ a ∈ items ∧ a' ∈ items') items items' :=
  List.forall₂_iff_zip.2 ⟨h.length_eq, fun hpair =>
    ⟨List.forall₂_zip h hpair, List.of_mem_zip hpair⟩⟩

theorem rel_head? : Option.Rel related items.head? items'.head? := by
  cases h with
  | nil => exact .none
  | cons hab _ => exact .some hab

theorem rel_getLast? : Option.Rel related items.getLast? items'.getLast? := by
  rw [← List.head?_reverse, ← List.head?_reverse]
  exact rel_head? (List.rel_reverse h)

theorem rel_find? {keeps : α → Bool} (hkeeps : ∀ a a', related a a' → keeps a' = keeps a) :
    Option.Rel related (items.find? keeps) (items'.find? keeps) := by
  rw [← List.head?_filter, ← List.head?_filter]
  exact rel_head? (forall₂_filter h keeps hkeeps)

end Lists

theorem bind_eq_of_rel {α β : Type} {related : α → α → Prop} {o o' : Option α}
    (h : Option.Rel related o o') {read : α → Option β}
    (hread : ∀ a a', related a a' → read a' = read a) : o'.bind read = o.bind read := by
  cases h with
  | none => rfl
  | some hab => exact hread _ _ hab

end RoleAudit
