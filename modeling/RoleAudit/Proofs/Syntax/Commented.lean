import Mathlib.Data.List.Forall2
import Mathlib.Data.Option.Basic
import RoleAudit.Proofs.Syntax.Outline
import RoleAudit.Text.Class

/-!
# Trees with further comments

When comments are written between the tokens of a source, its tree stays the same but for the
comments: they are further children of the nodes that span them, and all else moves.

- `searchPending_eq`, `ofKind_eq_filterMap`: a search goes through the nodes of a tree in order;
- `Node.isKept`: a node whose text no comment can have changed;
- `Node.Commented`: a tree and what becomes of it, where each node passes a test with what it becomes;
- `Node.check`, `Node.commented_of_check`: the relation can be computed;
- `Node.Commented.child?`, `Node.Commented.ofKind`, `AllCommented.filterMap`: what is looked up by
  its role or its kind is found again, and comments are not.
-/

namespace RoleAudit
namespace Syntax

namespace Node

/-! ## Searches -/

theorem preorder_eq (n : Node) : n.preorder = n :: preorderAll n.children := by
  cases n
  rw [preorder]
  rfl

theorem withParents_eq (parent : Option Node) (n : Node) :
    n.withParents parent = (parent, n) :: allWithParents (some n) n.children := by
  cases n
  rw [withParents]
  rfl

theorem preorderAll_append (ns ms : List Node) :
    preorderAll (ns ++ ms) = preorderAll ns ++ preorderAll ms := by
  induction ns with
  | nil => rfl
  | cons n rest ih => rw [List.cons_append, preorderAll, preorderAll, ih, List.append_assoc]

theorem sizeAll_append (ns ms : List Node) : sizeAll (ns ++ ms) = sizeAll ns + sizeAll ms := by
  induction ns with
  | nil => simp [sizeAll]
  | cons n rest ih => rw [List.cons_append, sizeAll, sizeAll, ih, Nat.add_assoc]

theorem size_eq (n : Node) : n.size = 1 + sizeAll n.children := by
  cases n
  rw [size]
  rfl

/-- With enough steps a search takes all nodes of the pending trees in order. -/
theorem searchPending_eq (test : Node → Bool) {steps : Nat} {pending : List Node}
    (h : sizeAll pending ≤ steps) :
    searchPending test steps pending = (preorderAll pending).filter test := by
  induction steps generalizing pending with
  | zero =>
      cases pending with
      | nil => rfl
      | cons n rest =>
          rw [sizeAll, size_eq] at h
          omega
  | succ steps ih =>
      cases pending with
      | nil => rfl
      | cons n rest =>
          rw [sizeAll, size_eq] at h
          -- the children take the place of their parent, so that one node less is pending
          have hbelow : sizeAll (n.children ++ rest) ≤ steps := by
            rw [sizeAll_append]
            omega
          rw [searchPending, ih hbelow, preorderAll, preorder_eq, List.cons_append,
            ← preorderAll_append, List.filter_cons]

theorem search_eq (n : Node) (test : Node → Bool) : n.search test = n.preorder.filter test := by
  have hone : sizeAll [n] ≤ n.size := by simp [sizeAll]
  have hnodes : preorderAll [n] = n.preorder := by simp [preorderAll]
  rw [search, searchPending_eq test hone, hnodes]

mutual

theorem map_snd_withParents (parent : Option Node) :
    ∀ n : Node, (n.withParents parent).map Prod.snd = n.preorder
  | .mk kind role start line text children => by
    rw [withParents_eq, List.map_cons, map_snd_allWithParents, preorder_eq]

theorem map_snd_allWithParents (parent : Option Node) :
    ∀ ns : List Node, (allWithParents parent ns).map Prod.snd = preorderAll ns
  | [] => rfl
  | n :: rest => by
    rw [allWithParents, List.map_append, map_snd_withParents parent n,
      map_snd_allWithParents parent rest, preorderAll]

end

/-- The nodes of a kind are those among all nodes with their parents. -/
theorem ofKind_eq_filterMap (n : Node) (kind : Kind) :
    n.ofKind kind = (n.withParents none).filterMap fun entry =>
      if entry.2.kind == kind then some entry.2 else none := by
  rw [ofKind, search_eq, ← map_snd_withParents none n, List.filter_map, ← List.filterMap_eq_filter]
  rw [List.map_filterMap]
  congr 1
  funext entry
  simp only [Function.comp_apply, Option.guard]
  split <;> rfl

theorem kind_of_mem_ofKind {n m : Node} {kind : Kind} (h : m ∈ n.ofKind kind) : m.kind = kind := by
  rw [ofKind, search_eq, List.mem_filter] at h
  simpa using h.2

/-! ## Nodes that keep their text -/

/-- A node of one token, a text in quotes or one word; no comment can stand in it. -/
def isToken (n : Node) : Bool :=
  n.kind == .string || n.text.toList.all fun c => Text.isWord c || c == '$' || c == '#'

/-- A token, or a node without a further comment in it. -/
def isKept (n n' : Node) : Bool :=
  n.isToken || n'.size == n.size

/-! ## Further comments -/

mutual

/--
A tree and what becomes of it when comments are put between the tokens of its source. A node keeps
its kind, its role, and its text if no comment is put into it; it starts before its children; and it
passes a test with the node that it becomes.
-/
inductive Commented (test : Node → Node → Bool) : Node → Node → Prop where
  | intro {n n' : Node} (kind : n'.kind = n.kind) (role : n'.role = n.role)
      (text : n.isKept n' = true → n'.text = n.text)
      (starts : ∀ c ∈ n.children, n.start ≤ c.start)
      (starts' : ∀ c ∈ n'.children, n'.start ≤ c.start)
      (tested : test n n' = true) (below : AllCommented test n.children n'.children) :
      Commented test n n'

/-- Siblings, and what becomes of them with further comments anywhere among them. -/
inductive AllCommented (test : Node → Node → Bool) : List Node → List Node → Prop where
  | nil : AllCommented test [] []
  | comment {c : Node} {ns ns' : List Node} (hc : c.IsComment) (hrest : AllCommented test ns ns') :
      AllCommented test ns (c :: ns')
  | cons {n n' : Node} {ns ns' : List Node} (hn : Commented test n n')
      (hrest : AllCommented test ns ns') : AllCommented test (n :: ns) (n' :: ns')

end

variable {test : Node → Node → Bool}

namespace Commented

variable {n n' : Node} (h : n.Commented test n')

include h

theorem kind_eq : n'.kind = n.kind := by
  cases h
  assumption

theorem role_eq : n'.role = n.role := by
  cases h
  assumption

theorem text_eq (hkept : n.isKept n' = true) : n'.text = n.text := by
  cases h with
  | intro kind role text => exact text hkept

theorem start_le : ∀ c ∈ n.children, n.start ≤ c.start := by
  cases h
  assumption

theorem start_le' : ∀ c ∈ n'.children, n'.start ≤ c.start := by
  cases h
  assumption

theorem tested : test n n' = true := by
  cases h
  assumption

theorem children : AllCommented test n.children n'.children := by
  cases h
  assumption

end Commented

/-! ## Siblings -/

namespace AllCommented

variable {ns ns' : List Node} (h : AllCommented test ns ns')

include h

/-- What is picked from siblings is picked again, if comments give nothing. -/
theorem filterMap {α β : Type} {related : α → β → Prop} {f : Node → Option α} {g : Node → Option β}
    (hcomment : ∀ c : Node, c.IsComment → g c = none)
    (hpair : ∀ n n' : Node, n.Commented test n' → Option.Rel related (f n) (g n')) :
    List.Forall₂ related (ns.filterMap f) (ns'.filterMap g) := by
  induction ns' generalizing ns with
  | nil =>
      cases h
      exact .nil
  | cons c ns' ih =>
      cases h with
      | comment hc hrest =>
          rw [List.filterMap_cons_none (hcomment c hc)]
          exact ih hrest
      | @cons n _ ns _ hn hrest =>
          have hfirst := hpair n c hn
          rw [List.filterMap_cons, List.filterMap_cons]
          generalize f n = left, g c = right at hfirst
          cases hfirst with
          | none => exact ih hrest
          | some hfirst => exact .cons hfirst (ih hrest)

/-- The siblings of a sort stay the same, if comments are of another one. -/
theorem filter (keeps : Node → Bool) (hcomment : ∀ c : Node, c.IsComment → keeps c = false)
    (hpair : ∀ n n' : Node, n.Commented test n' → keeps n' = keeps n) :
    List.Forall₂ (Commented test) (ns.filter keeps) (ns'.filter keeps) := by
  have hpicked : List.Forall₂ (Commented test) (ns.filterMap (Option.guard keeps))
      (ns'.filterMap (Option.guard keeps)) :=
    h.filterMap (fun c hc => by simp [Option.guard, hcomment c hc]) fun n n' hn => by
      rw [Option.guard, Option.guard, hpair n n' hn]
      split
      · exact .some hn
      · exact .none
  rwa [List.filterMap_eq_filter] at hpicked

theorem filter_kind (kind : Kind) (hkind : kind ≠ .comment) :
    List.Forall₂ (Commented test) (ns.filter fun n => n.kind == kind)
      (ns'.filter fun n => n.kind == kind) :=
  h.filter _ (fun c hc => by simpa [hc.1] using hkind.symm) fun n n' hn => by rw [hn.kind_eq]

theorem find?_role {role : Role} (hrole : role ≠ .none) :
    Option.Rel (Commented test) (ns.find? fun n => n.role == role)
      (ns'.find? fun n => n.role == role) := by
  induction ns' generalizing ns with
  | nil =>
      cases h
      exact .none
  | cons c ns' ih =>
      cases h with
      | comment hc hrest =>
          rw [List.find?_cons_of_neg (by simpa [hc.2.1] using hrole.symm)]
          exact ih hrest
      | @cons n _ ns _ hn hrest =>
          rw [List.find?_cons, List.find?_cons, hn.role_eq]
          cases n.role == role with
          | true => exact .some hn
          | false => exact ih hrest

theorem append {ms ms' : List Node} (hms : AllCommented test ms ms') :
    AllCommented test (ns ++ ms) (ns' ++ ms') := by
  induction ns' generalizing ns with
  | nil =>
      cases h
      exact hms
  | cons c ns' ih =>
      cases h with
      | comment hc hrest => exact .comment hc (ih hrest)
      | cons hn hrest => exact .cons hn (ih hrest)

/-- What siblings give is given again, with what the comments give. -/
theorem flatMap {f : Node → List Node}
    (hcomment : ∀ c : Node, c.IsComment → AllCommented test [] (f c))
    (hpair : ∀ n n' : Node, n.Commented test n' → AllCommented test (f n) (f n')) :
    AllCommented test (ns.flatMap f) (ns'.flatMap f) := by
  induction ns' generalizing ns with
  | nil =>
      cases h
      exact .nil
  | cons c ns' ih =>
      cases h with
      | comment hc hrest =>
          rw [List.flatMap_cons]
          exact (hcomment c hc).append (ih hrest)
      | @cons n _ ns _ hn hrest =>
          rw [List.flatMap_cons, List.flatMap_cons]
          exact (hpair n c hn).append (ih hrest)

/-- Each sibling has become one of them. -/
theorem of_mem {n : Node} (hn : n ∈ ns) : ∃ n' ∈ ns', n.Commented test n' := by
  induction ns' generalizing ns with
  | nil =>
      cases h
      cases hn
  | cons c ns' ih =>
      cases h with
      | comment _ hrest =>
          obtain ⟨n', hn', hpair⟩ := ih hrest hn
          exact ⟨n', List.mem_cons_of_mem c hn', hpair⟩
      | cons hfirst hrest =>
          rcases List.mem_cons.1 hn with rfl | hn
          · exact ⟨c, List.mem_cons_self, hfirst⟩
          · obtain ⟨n', hn', hpair⟩ := ih hrest hn
            exact ⟨n', List.mem_cons_of_mem c hn', hpair⟩

/-- Each of them is a comment, or what a sibling has become. -/
theorem of_mem' {n' : Node} (hn : n' ∈ ns') : n'.IsComment ∨ ∃ n ∈ ns, n.Commented test n' := by
  induction ns' generalizing ns with
  | nil => cases hn
  | cons c ns' ih =>
      cases h with
      | comment hc hrest =>
          rcases List.mem_cons.1 hn with rfl | hn
          · exact .inl hc
          · exact ih hrest hn
      | @cons n _ ns _ hfirst hrest =>
          rcases List.mem_cons.1 hn with rfl | hn
          · exact .inr ⟨n, List.mem_cons_self, hfirst⟩
          · exact (ih hrest hn).imp_right fun ⟨m, hm, hpair⟩ =>
              ⟨m, List.mem_cons_of_mem n hm, hpair⟩

/-- There are not less siblings with the comments. -/
theorem length_le : ns.length ≤ ns'.length := by
  induction ns' generalizing ns with
  | nil =>
      cases h
      exact Nat.le_refl 0
  | cons c ns' ih =>
      cases h with
      | comment _ hrest => exact Nat.le_succ_of_le (ih hrest)
      | cons _ hrest => exact Nat.succ_le_succ (ih hrest)

/-- What comes to the siblings are comments. -/
theorem length_add_countP :
    ns'.length + ns.countP (·.kind == .comment) = ns.length + ns'.countP (·.kind == .comment) := by
  induction ns' generalizing ns with
  | nil =>
      cases h
      rfl
  | cons c ns' ih =>
      cases h with
      | comment hc hrest =>
          have := ih hrest
          rw [List.length_cons, List.countP_cons_of_pos (by simp [hc.1])]
          omega
      | @cons n _ ns _ hn hrest =>
          have := ih hrest
          rw [List.length_cons, List.length_cons, List.countP_cons, List.countP_cons, hn.kind_eq]
          omega

/-- If there are as many, no comment is among them. -/
theorem forall₂ (hlength : ns'.length = ns.length) : List.Forall₂ (Commented test) ns ns' := by
  induction ns' generalizing ns with
  | nil =>
      cases h
      exact .nil
  | cons c ns' ih =>
      cases h with
      | comment _ hrest =>
          have hle := hrest.length_le
          rw [List.length_cons] at hlength
          omega
      | cons hn hrest => exact .cons hn (ih hrest (Nat.succ.inj hlength))

end AllCommented

/-! ## Trees -/

/-- A child in a role is found again. -/
theorem Commented.child? {n n' : Node} (h : n.Commented test n') (role : Role)
    (hrole : role ≠ .none) : Option.Rel (Commented test) (n.child? role) (n'.child? role) :=
  h.children.find?_role hrole

/-- Picking from nodes with their parents sees no comments, and picks what is related. -/
structure PicksAlike (test : Node → Node → Bool) {α β : Type} (related : α → β → Prop)
    (f : Option Node × Node → Option α) (g : Option Node × Node → Option β) : Prop where
  comment : ∀ (parent : Option Node) (c : Node), c.IsComment → g (parent, c) = none
  pair : ∀ {parent parent' : Option Node} {n n' : Node},
    Option.Rel (Commented test) parent parent' → n.Commented test n' →
      Option.Rel related (f (parent, n)) (g (parent', n'))

section Picking

variable {α β : Type} {related : α → β → Prop} {f : Option Node × Node → Option α}
  {g : Option Node × Node → Option β} (hpicks : PicksAlike test related f g)

include hpicks

mutual

/-- What is picked from the nodes of a tree is picked again. -/
theorem Commented.filterMap_withParents {parent parent' : Option Node}
    (hparent : Option.Rel (Commented test) parent parent') {n : Node} :
    ∀ {n' : Node}, n.Commented test n' →
      List.Forall₂ related ((n.withParents parent).filterMap f)
        ((n'.withParents parent').filterMap g)
  | .mk kind' role' start' line' text' children', h => by
    have hbelow : List.Forall₂ related ((allWithParents (some n) n.children).filterMap f)
        ((allWithParents (some (.mk kind' role' start' line' text' children'))
          children').filterMap g) :=
      AllCommented.filterMap_allWithParents (.some h) h.children
    have hfirst := hpicks.pair hparent h
    rw [withParents_eq, withParents_eq, List.filterMap_cons, List.filterMap_cons]
    generalize f (parent, n) = left, g (parent', _) = right at hfirst
    cases hfirst with
    | none => exact hbelow
    | some hfirst => exact .cons hfirst hbelow

theorem AllCommented.filterMap_allWithParents {parent parent' : Option Node}
    (hparent : Option.Rel (Commented test) parent parent') {ns : List Node} :
    ∀ {ns' : List Node}, AllCommented test ns ns' →
      List.Forall₂ related ((allWithParents parent ns).filterMap f)
        ((allWithParents parent' ns').filterMap g)
  | [], h => by
    cases h
    exact .nil
  | n' :: ns', h => by
    cases h with
    | comment hc hrest =>
        -- a comment has no children, and gives nothing itself
        have hnone : (n'.withParents parent').filterMap g = [] := by
          rw [withParents_eq, hc.2.2, allWithParents,
            List.filterMap_cons_none (hpicks.comment _ _ hc)]
          rfl
        rw [allWithParents, List.filterMap_append, hnone]
        exact AllCommented.filterMap_allWithParents hparent hrest
    | cons hn hrest =>
        rw [allWithParents, allWithParents, List.filterMap_append, List.filterMap_append]
        exact List.rel_append (Commented.filterMap_withParents hparent hn)
          (AllCommented.filterMap_allWithParents hparent hrest)

end

end Picking

/-- The nodes of a kind are found again, if it is not the one of comments. -/
theorem Commented.ofKind {n n' : Node} (h : n.Commented test n') (kind : Kind)
    (hkind : kind ≠ .comment) :
    List.Forall₂ (Commented test) (n.ofKind kind) (n'.ofKind kind) := by
  rw [ofKind_eq_filterMap, ofKind_eq_filterMap]
  refine h.filterMap_withParents ⟨fun parent c hc => ?_, fun _ hn => ?_⟩ .none
  · simp [hc.1, hkind.symm]
  · dsimp only
    rw [hn.kind_eq]
    split
    · exact .some hn
    · exact .none

/-! ## Computing the relation -/

/-- A node is a comment as it is passed. -/
def isComment (n : Node) : Bool :=
  n.kind == .comment && n.role == .none && n.children.isEmpty

theorem isComment_iff {n : Node} : n.isComment = true ↔ n.IsComment := by
  simp [isComment, IsComment, and_assoc]

mutual

/-- Whether a tree is another one with further comments. -/
def check (test : Node → Node → Bool) : Node → Node → Bool
  | n, .mk kind' role' start' line' text' children' =>
    let n' := .mk kind' role' start' line' text' children'
    kind' == n.kind && role' == n.role && (!n.isKept n' || text' == n.text) &&
      n.children.all (fun c => n.start ≤ c.start) && children'.all (fun c => start' ≤ c.start) &&
      test n n' && checkAll test n.children children'

/-- Whether siblings are others with further comments among them. -/
def checkAll (test : Node → Node → Bool) : List Node → List Node → Bool
  | ns, [] => ns.isEmpty
  | ns, c :: rest =>
    (c.isComment && checkAll test ns rest) ||
      match ns with
      | [] => false
      | n :: ns => check test n c && checkAll test ns rest

end

mutual

/-- The relation holds where it is computed. -/
theorem commented_of_check {n : Node} : ∀ {n' : Node}, check test n n' = true → n.Commented test n'
  | .mk kind' role' start' line' text' children', h => by
    rw [check] at h
    simp only [Bool.and_eq_true, Bool.or_eq_true, Bool.not_eq_true', beq_iff_eq, List.all_eq_true,
      decide_eq_true_eq] at h
    obtain ⟨⟨⟨⟨⟨⟨hkind, hrole⟩, htext⟩, hstarts⟩, hstarts'⟩, htest⟩, hchildren⟩ := h
    refine .intro hkind hrole (fun hkept => ?_) hstarts hstarts' htest
      (allCommented_of_checkAll hchildren)
    exact htext.resolve_left (by rw [hkept]; exact Bool.noConfusion)

theorem allCommented_of_checkAll {ns : List Node} :
    ∀ {ns' : List Node}, checkAll test ns ns' = true → AllCommented test ns ns'
  | [], h => by
    unfold checkAll at h
    rw [List.isEmpty_iff.1 h]
    exact .nil
  | c :: rest, h => by
    unfold checkAll at h
    rw [Bool.or_eq_true, Bool.and_eq_true] at h
    rcases h with ⟨hc, hrest⟩ | h
    · exact .comment (isComment_iff.1 hc) (allCommented_of_checkAll hrest)
    · cases ns with
      | nil => cases h
      | cons n ns =>
          rw [Bool.and_eq_true] at h
          exact .cons (commented_of_check h.1) (allCommented_of_checkAll h.2)

end

end Node
end Syntax
end RoleAudit
