import Mathlib.Data.List.Basic
import RoleAudit.Syntax.Tree

/-!
# Trees that are moved

A tree stands elsewhere when something is written before it. Only its places change then.

- `Node.shift`: a tree further back, by some characters and some lines;
- `search_shift`: what is found in it is what was found before, further back.
-/

namespace RoleAudit
namespace Syntax

mutual

/-- A tree with more characters and more lines before it. -/
def Node.shift (places lines : Nat) : Node → Node
  | .mk kind role start line text children =>
    .mk kind role (start + places) (line + lines) text (shiftAll places lines children)

/-- Several trees with more characters and more lines before them. -/
def shiftAll (places lines : Nat) : List Node → List Node
  | [] => []
  | n :: rest => Node.shift places lines n :: shiftAll places lines rest

end

variable (places lines : Nat)

theorem shiftAll_eq_map (ns : List Node) :
    shiftAll places lines ns = ns.map (Node.shift places lines) := by
  induction ns with
  | nil => rfl
  | cons n rest ih => rw [shiftAll, ih, List.map_cons]

namespace Node

@[simp]
theorem kind_shift (n : Node) : (n.shift places lines).kind = n.kind := by
  cases n
  rfl

@[simp]
theorem role_shift (n : Node) : (n.shift places lines).role = n.role := by
  cases n
  rfl

@[simp]
theorem start_shift (n : Node) : (n.shift places lines).start = n.start + places := by
  cases n
  rfl

@[simp]
theorem line_shift (n : Node) : (n.shift places lines).line = n.line + lines := by
  cases n
  rfl

@[simp]
theorem text_shift (n : Node) : (n.shift places lines).text = n.text := by
  cases n
  rfl

@[simp]
theorem children_shift (n : Node) :
    (n.shift places lines).children = n.children.map (shift places lines) := by
  cases n with
  | mk kind role start line text children => exact shiftAll_eq_map places lines children

@[simp]
theorem child?_shift (n : Node) (role : Role) :
    (n.shift places lines).child? role = (n.child? role).map (shift places lines) := by
  simp only [child?, children_shift, List.find?_map, Function.comp_def, role_shift]

@[simp]
theorem childText_shift (n : Node) (role : Role) :
    (n.shift places lines).childText role = n.childText role := by
  unfold childText
  rw [child?_shift]
  cases n.child? role with
  | none => rfl
  | some c => exact text_shift places lines c

mutual

theorem size_shift : ∀ n : Node, (n.shift places lines).size = n.size
  | .mk _ _ _ _ _ children => by rw [shift, size, size, sizeAll_shiftAll children]

theorem sizeAll_shiftAll : ∀ ns : List Node, sizeAll (shiftAll places lines ns) = sizeAll ns
  | [] => rfl
  | n :: rest => by rw [shiftAll, sizeAll, sizeAll, size_shift n, sizeAll_shiftAll rest]

end

/-- A search takes the pending nodes in the same order wherever they stand. -/
theorem searchPending_shift {test : Node → Bool}
    (htest : ∀ n, test (n.shift places lines) = test n) (steps : Nat) (pending : List Node) :
    searchPending test steps (pending.map (shift places lines)) =
      (searchPending test steps pending).map (shift places lines) := by
  induction steps generalizing pending with
  | zero => rfl
  | succ steps ih =>
      cases pending with
      | nil => rfl
      | cons n rest =>
          have hrest := ih (n.children ++ rest)
          rw [List.map_append, ← children_shift] at hrest
          rw [List.map_cons, searchPending, searchPending, htest, hrest]
          split <;> rfl

theorem search_shift {test : Node → Bool} (htest : ∀ n, test (n.shift places lines) = test n)
    (n : Node) :
    (n.shift places lines).search test = (n.search test).map (shift places lines) := by
  unfold search
  rw [size_shift]
  exact searchPending_shift places lines htest n.size [n]

@[simp]
theorem ofKind_shift (n : Node) (kind : Kind) :
    (n.shift places lines).ofKind kind = (n.ofKind kind).map (shift places lines) :=
  search_shift places lines (fun m => by rw [kind_shift]) n

end Node
end Syntax
end RoleAudit
