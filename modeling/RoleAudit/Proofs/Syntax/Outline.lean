import RoleAudit.Controller.Selection

/-!
# The shape of a tree

What is true of the nodes of a tree by the way they are read, as far as classes go: the body of a
class shows its decorators and methods in order, with each decorator before a decorator or a method.

- `Face`: what a node shows of itself among its siblings;
- `Orderly`: the members of the body of a class, as their faces;
- `Node.Sound`: the nodes of a tree have the shape of their kind;
- `Node.Sound.insert`: comments may be put into a tree;
- `orderly_of_mem_classes`: so the classes of a tree have bodies of this shape.
-/

namespace RoleAudit
namespace Syntax

/-! ## Faces -/

/-- What a node shows of itself among its siblings. -/
structure Face where
  kind : Kind
  start : Nat
  /-- Where the name of what it declares starts. -/
  name : Option Nat

/-- The face of a node. -/
def Node.face (n : Node) : Face :=
  ⟨n.kind, n.start, (n.child? .name).map Node.start⟩

/-- The faces of siblings; comments show none. -/
def faces (ns : List Node) : List Face :=
  (ns.filter fun n => n.kind != .comment).map Node.face

@[simp]
theorem faces_nil : faces [] = [] := rfl

@[simp]
theorem faces_append (ns ms : List Node) : faces (ns ++ ms) = faces ns ++ faces ms := by
  simp [faces]

theorem faces_cons_comment {n : Node} (h : n.kind = .comment) (ns : List Node) :
    faces (n :: ns) = faces ns := by
  simp [faces, h]

theorem faces_cons {n : Node} (h : n.kind ≠ .comment) (ns : List Node) :
    faces (n :: ns) = n.face :: faces ns := by
  simp [faces, h]

/-- Where a decorator starts, or the name of a method: these places tell what is written on what. -/
def Face.anchor? (f : Face) : Option Nat :=
  match f.kind with
  | .decorator => some f.start
  | .method => f.name
  | _ => none

/-- Each decorator stands right before a decorator or a method. -/
inductive Led : List Face → Prop where
  | nil : Led []
  | plain {f : Face} {rest : List Face} (hf : f.kind ≠ .decorator) : Led rest → Led (f :: rest)
  | mark {f g : Face} {rest : List Face} (hf : f.kind = .decorator)
      (hg : g.kind = .decorator ∨ g.kind = .method) : Led (g :: rest) → Led (f :: g :: rest)

theorem Led.append {fs gs : List Face} (hfs : Led fs) (hgs : Led gs) : Led (fs ++ gs) := by
  induction hfs with
  | nil => exact hgs
  | plain hf _ ih => exact .plain hf ih
  | mark hf hg _ ih => exact .mark hf hg ih

theorem Led.of_append {fs gs : List Face} (h : Led (fs ++ gs)) : Led gs := by
  induction fs with
  | nil => exact h
  | cons f fs ih =>
      apply ih
      cases hrest : fs ++ gs with
      | nil => exact .nil
      | cons g rest =>
          rw [List.cons_append, hrest] at h
          cases h with
          | plain _ h => exact h
          | mark _ _ h => exact h

/-- Decorators before a method. -/
theorem led_marks {marks : List Face} (h : ∀ f ∈ marks, f.kind = .decorator) {method : Face}
    (hmethod : method.kind = .method) : Led (marks ++ [method]) := by
  induction marks with
  | nil => exact .plain (by simp [hmethod]) .nil
  | cons f marks ih =>
      have hf := h f List.mem_cons_self
      have hrest := ih fun g hg => h g (List.mem_cons_of_mem f hg)
      cases marks with
      | nil => exact .mark hf (.inr hmethod) hrest
      | cons g marks =>
          exact .mark hf (.inl (h g (List.mem_cons_of_mem f List.mem_cons_self))) hrest

/-- The members of the body of a class. -/
structure Orderly (members : List Face) : Prop where
  ascending : (members.filterMap Face.anchor?).Pairwise (· < ·)
  led : Led members
  named : ∀ f ∈ members, f.kind = .method → f.name.isSome

/-! ## Sound trees -/

/-- The shape that the children of a node have by its kind. -/
def Shapely (kind : Kind) (children : List Node) : Prop :=
  match kind with
  | .classBody => Orderly (faces children)
  | .classDeclaration => ∀ n ∈ children, n.role = .body → n.kind = .classBody
  | .abstractClass => ∀ n ∈ children, n.role = .body → n.kind = .classBody
  | .method => ∀ n ∈ children, n.kind ≠ .decorator
  | _ => True

/-- Every node of a tree has the shape of its kind. -/
inductive Node.Sound : Node → Prop where
  | mk {kind : Kind} {role : Role} {start line : Nat} {text : String} {children : List Node}
      (shape : Shapely kind children) (below : ∀ n ∈ children, n.Sound) :
      Sound (.mk kind role start line text children)

namespace Node

@[simp]
theorem kind_withRole (role : Role) (n : Node) : (n.withRole role).kind = n.kind := by
  cases n
  rfl

@[simp]
theorem role_withRole (role : Role) (n : Node) : (n.withRole role).role = role := by
  cases n
  rfl

@[simp]
theorem start_withRole (role : Role) (n : Node) : (n.withRole role).start = n.start := by
  cases n
  rfl

namespace Sound

variable {n : Node}

theorem shapely (h : n.Sound) : Shapely n.kind n.children := by
  cases h with
  | mk shape below => exact shape

theorem children (h : n.Sound) : ∀ c ∈ n.children, c.Sound := by
  cases h with
  | mk shape below => exact below

theorem withRole (h : n.Sound) (role : Role) : (n.withRole role).Sound := by
  cases h with
  | mk shape below => exact .mk shape below

end Sound

@[simp]
theorem sound_withRole (role : Role) (n : Node) : (n.withRole role).Sound ↔ n.Sound := by
  cases n
  exact ⟨fun h => .mk h.shapely h.children, fun h => h.withRole role⟩

/-- A sound node of a kind whose role is not told yet. -/
structure MadeAs (kind : Kind) (n : Node) : Prop where
  sound : n.Sound
  role : n.role = .none
  kind : n.kind = kind

/-- A sound node that is no decorator and whose role is not told yet. -/
structure Plain (n : Node) : Prop where
  sound : n.Sound
  role : n.role = .none
  kind : n.kind ≠ .decorator

end Node

/-- Each of some trees is sound. -/
def AllSound (ns : List Node) : Prop :=
  ∀ n ∈ ns, n.Sound

@[simp]
theorem allSound_nil : AllSound [] := nofun

@[simp]
theorem allSound_cons (n : Node) (ns : List Node) : AllSound (n :: ns) ↔ n.Sound ∧ AllSound ns :=
  List.forall_mem_cons

@[simp]
theorem allSound_append (ns ms : List Node) :
    AllSound (ns ++ ms) ↔ AllSound ns ∧ AllSound ms :=
  List.forall_mem_append

theorem allSound_flatten {parts : List (List Node)} (h : ∀ ns ∈ parts, AllSound ns) :
    AllSound parts.flatten := by
  intro n hn
  rcases List.mem_flatten.1 hn with ⟨ns, hns, hn⟩
  exact h ns hns n hn

/-! ## Comments in a tree -/

/-- A comment as it is passed. -/
def Node.IsComment (n : Node) : Prop :=
  n.kind = .comment ∧ n.role = .none ∧ n.children = []

theorem Node.IsComment.sound {n : Node} (h : n.IsComment) : n.Sound := by
  cases n with
  | mk kind role start line text children =>
      rcases h with ⟨hkind, -, hchildren⟩
      change kind = .comment at hkind
      change children = [] at hchildren
      subst hkind hchildren
      exact .mk trivial nofun

namespace Node

variable (comment n : Node)

@[simp]
theorem kind_insert : (insert comment n).kind = n.kind := by
  cases n
  rw [insert]
  rfl

@[simp]
theorem role_insert : (insert comment n).role = n.role := by
  cases n
  rw [insert]
  rfl

@[simp]
theorem start_insert : (insert comment n).start = n.start := by
  cases n
  rw [insert]
  rfl

theorem children_insert : (insert comment n).children = insertAmong comment n.children := by
  cases n
  rw [insert]
  rfl

end Node

section Insertion

variable {comment : Node} (hcomment : comment.IsComment)

include hcomment

/-- A comment is found in no role, and the node that takes it in keeps its place. -/
theorem find?_insertAmong {role : Role} (hrole : role ≠ .none) (ns : List Node) :
    ((insertAmong comment ns).find? fun n => n.role == role).map Node.start =
      (ns.find? fun n => n.role == role).map Node.start := by
  have hnone : (comment.role == role) = false := by simpa [hcomment.2.1] using hrole.symm
  induction ns with
  | nil => simp [insertAmong, hnone]
  | cons n rest ih =>
      rw [insertAmong]
      split
      · -- the comment stands before the node, goes into it, or comes later
        rw [List.find?_cons_of_neg (by simp [hnone])]
      · split
        · simp only [List.find?_cons, Node.role_insert]
          split
          · simp
          · rfl
        · simp only [List.find?_cons]
          split
          · rfl
          · exact ih

theorem face_insert (n : Node) : (Node.insert comment n).face = n.face := by
  have hname := find?_insertAmong hcomment (show Role.name ≠ .none by decide) n.children
  simp only [Node.face, Node.child?, Node.kind_insert, Node.start_insert, Node.children_insert,
    hname]

/-- Siblings show the same with a comment among them, or inside one of them. -/
theorem faces_insertAmong (ns : List Node) : faces (insertAmong comment ns) = faces ns := by
  induction ns with
  | nil => rw [insertAmong, faces_cons_comment hcomment.1]
  | cons n rest ih =>
      rw [insertAmong]
      split
      · exact faces_cons_comment hcomment.1 _
      · split
        · by_cases hn : n.kind = .comment
          · rw [faces_cons_comment hn, faces_cons_comment (by simpa using hn)]
          · rw [faces_cons hn, faces_cons (by simpa using hn), face_insert hcomment]
        · by_cases hn : n.kind = .comment
          · rw [faces_cons_comment hn, faces_cons_comment hn, ih]
          · rw [faces_cons hn, faces_cons hn, ih]

omit hcomment in
/-- What stands among siblings with a comment: the comment, or what a sibling has become. -/
theorem mem_insertAmong {ns : List Node} {m : Node} (h : m ∈ insertAmong comment ns) :
    m = comment ∨ ∃ n ∈ ns, m = n ∨ m = Node.insert comment n := by
  induction ns with
  | nil =>
      rw [insertAmong] at h
      exact .inl (List.mem_singleton.1 h)
  | cons n rest ih =>
      rw [insertAmong] at h
      split at h
      · rcases List.mem_cons.1 h with rfl | h
        · exact .inl rfl
        · exact .inr ⟨m, h, .inl rfl⟩
      · split at h
        · rcases List.mem_cons.1 h with rfl | h
          · exact .inr ⟨n, List.mem_cons_self, .inr rfl⟩
          · exact .inr ⟨m, List.mem_cons_of_mem n h, .inl rfl⟩
        · rcases List.mem_cons.1 h with rfl | h
          · exact .inr ⟨m, List.mem_cons_self, .inl rfl⟩
          · rcases ih h with rfl | ⟨k, hk, hm⟩
            · exact .inl rfl
            · exact .inr ⟨k, List.mem_cons_of_mem n hk, hm⟩

theorem shapely_insertAmong {kind : Kind} {ns : List Node} (h : Shapely kind ns) :
    Shapely kind (insertAmong comment ns) := by
  -- a statement about kinds and roles holds of the comment, and of siblings as it did before
  have hall : ∀ P : Kind → Role → Prop, P .comment .none → (∀ n ∈ ns, P n.kind n.role) →
      ∀ m ∈ insertAmong comment ns, P m.kind m.role := by
    intro P hown hns m hm
    rcases mem_insertAmong hm with rfl | ⟨n, hn, rfl | rfl⟩
    · rwa [hcomment.1, hcomment.2.1]
    · exact hns m hn
    · simpa using hns n hn
  cases kind with
  | classBody =>
      change Orderly (faces (insertAmong comment ns))
      rw [faces_insertAmong hcomment]
      exact h
  | classDeclaration => exact hall (fun k r => r = .body → k = .classBody) nofun h
  | abstractClass => exact hall (fun k r => r = .body → k = .classBody) nofun h
  | method => exact hall (fun k _ => k ≠ .decorator) nofun h
  | _ => trivial

/-- A sound tree stays sound when a comment is put into it. -/
theorem Node.Sound.insert {n : Node} (h : n.Sound) : (Node.insert comment n).Sound := by
  induction h with
  | @mk kind role start line text children shape below ih =>
      rw [Node.insert]
      refine .mk (shapely_insertAmong hcomment shape) fun m hm => ?_
      rcases mem_insertAmong hm with rfl | ⟨n, hn, rfl | rfl⟩
      · exact hcomment.sound
      · exact below m hn
      · exact ih n hn

end Insertion

/-! ## Classes -/

mutual

theorem sound_of_mem_withParents {root : Node} (h : root.Sound) {parent p : Option Node} {n : Node}
    (hn : (p, n) ∈ root.withParents parent) : n.Sound := by
  cases root with
  | mk kind role start line text children =>
      rw [Node.withParents] at hn
      rcases List.mem_cons.1 hn with heq | hn
      · cases heq
        exact h
      · exact sound_of_mem_allWithParents h.children hn

theorem sound_of_mem_allWithParents {ns : List Node} (h : ∀ n ∈ ns, n.Sound)
    {parent p : Option Node} {n : Node} (hn : (p, n) ∈ Node.allWithParents parent ns) :
    n.Sound := by
  cases ns with
  | nil => cases hn
  | cons m rest =>
      rw [Node.allWithParents] at hn
      rcases List.mem_append.1 hn with hn | hn
      · exact sound_of_mem_withParents (h m List.mem_cons_self) hn
      · exact sound_of_mem_allWithParents (fun k hk => h k (List.mem_cons_of_mem m hk)) hn

end

end Syntax

open Syntax

/-- The body of a class in a sound tree is sound, and it is one of a class. -/
theorem body_of_mem_classes {root : Node} (h : root.Sound) {c : ClassFound}
    (hc : c ∈ classes root) : c.body.Sound ∧ c.body.kind = .classBody := by
  rcases List.mem_filterMap.1 hc with ⟨⟨parent, n⟩, hn, hfound⟩
  have hsound : n.Sound := sound_of_mem_withParents h hn
  have hbody : n.child? .body = some c.body ∧
      (n.kind = .classDeclaration ∨ n.kind = .abstractClass) := by
    change ClassFound.ofNode? parent n = some c at hfound
    unfold ClassFound.ofNode? at hfound
    split at hfound
    · rename_i hkind
      cases hchild : n.child? .body with
      | none => simp [hchild] at hfound
      | some body =>
          simp only [hchild, Option.some.injEq] at hfound
          subst hfound
          exact ⟨rfl, by simpa using hkind⟩
    · cases hfound
  have hmem : c.body ∈ n.children := List.mem_of_find?_eq_some hbody.1
  have hrole : c.body.role = .body := by simpa using List.find?_some hbody.1
  refine ⟨hsound.children _ hmem, ?_⟩
  -- a class has a body of its own kind in the role of a body
  have hshape := hsound.shapely
  rcases hbody.2 with hkind | hkind
  · rw [hkind] at hshape
    exact hshape _ hmem hrole
  · rw [hkind] at hshape
    exact hshape _ hmem hrole

end RoleAudit
