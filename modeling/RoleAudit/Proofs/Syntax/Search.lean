import Mathlib.Data.List.Forall2
import RoleAudit.Proofs.Syntax.Commented

/-!
# Searches through a tree

A search holds the nodes that it still has to look at in one list, where siblings of a node stand
beside siblings of all its ancestors. It takes the first of them, keeps it if it passes the test,
and puts its children in its place, until the list is empty.

- `Search`, `Search.step?`, `Search.Steps`: a search under way, one step of it, and a number of
  steps;
- `Search.Steps.size_eq`: every step takes one node of the pending trees, so that a search ends;
- `Search.Steps.prospect_eq`: what is found, followed by what the traversal of the pending trees
  would give, stays the same;
- `Node.At`: the nodes of a tree by their places, and `Node.withPlaces`: all of them in order;
- `search_in_preorder`: what a search finds, and when it is in the order of the source.
-/

namespace RoleAudit
namespace Syntax

open Node

/-! ## Steps -/

/-- A search under way. -/
structure Search where
  /-- The nodes to look at, the next one first; nothing below them was looked at. -/
  pending : List Node
  found : List Node

namespace Search

/-- A search that begins at the root of a tree. -/
def start (root : Node) : Search := ⟨[root], []⟩

/-- Look at the next node, if there is one. -/
def step? (test : Node → Bool) (s : Search) : Option Search :=
  match s.pending with
  | [] => none
  | n :: rest => some ⟨n.children ++ rest, if test n then s.found ++ [n] else s.found⟩

/-- A number of steps that lead from a search to another. -/
inductive Steps (test : Node → Bool) : Nat → Search → Search → Prop where
  | none (s : Search) : Steps test 0 s s
  | more {k : Nat} {s t u : Search} (first : s.step? test = some t) (rest : Steps test k t u) :
      Steps test (k + 1) s u

/-- What a search is going to find: the nodes found so far, then those of the pending trees. -/
def prospect (test : Node → Bool) (s : Search) : List Node :=
  s.found ++ (preorderAll s.pending).filter test

section Step

variable {test : Node → Bool} {s t : Search}

/-- A search is over when no nodes are pending. -/
theorem step?_eq_none_iff : s.step? test = Option.none ↔ s.pending = [] := by
  unfold step?
  cases s.pending <;> simp

/-- A step takes the next node and puts its children in its place. -/
theorem exists_of_step? (h : s.step? test = some t) :
    ∃ n rest, s.pending = n :: rest ∧ t.pending = n.children ++ rest ∧
      t.found = s.found ++ [n].filter test := by
  unfold step? at h
  cases hpending : s.pending with
  | nil =>
      simp [hpending] at h
  | cons n rest =>
      rw [hpending] at h
      cases h
      refine ⟨n, rest, rfl, rfl, ?_⟩
      cases htest : test n <;> simp [htest]

theorem size_of_step? (h : s.step? test = some t) :
    sizeAll s.pending = 1 + sizeAll t.pending := by
  obtain ⟨n, rest, hs, ht, -⟩ := exists_of_step? h
  calc
    sizeAll s.pending = n.size + sizeAll rest := by simp [hs, sizeAll]
    _ = 1 + (sizeAll n.children + sizeAll rest) := by rw [size_eq, Nat.add_assoc]
    _ = 1 + sizeAll t.pending := by rw [ht, sizeAll_append]

theorem prospect_of_step? (h : s.step? test = some t) : t.prospect test = s.prospect test := by
  obtain ⟨n, rest, hs, ht, hfound⟩ := exists_of_step? h
  -- the traversal of the next tree begins with its root and goes on with its children
  have htraversal : preorderAll s.pending = [n] ++ preorderAll t.pending := by
    simp [hs, ht, preorderAll, preorder_eq, preorderAll_append]
  calc
    t.prospect test
        = s.found ++ ([n].filter test ++ (preorderAll t.pending).filter test) := by
          simp only [prospect, hfound, List.append_assoc]
    _ = s.found ++ ([n] ++ preorderAll t.pending).filter test := by rw [List.filter_append]
    _ = s.prospect test := by rw [← htraversal, prospect]

/-- A step is what the search by number of steps does first. -/
theorem searchPending_of_step? (h : s.step? test = some t) (k : Nat) :
    s.found ++ searchPending test (k + 1) s.pending =
      t.found ++ searchPending test k t.pending := by
  obtain ⟨n, rest, hs, ht, hfound⟩ := exists_of_step? h
  rw [hs, ht, hfound, searchPending]
  cases htest : test n <;> simp [htest]

end Step

/-! ## Runs -/

namespace Steps

variable {test : Node → Bool} {k : Nat} {s t : Search}

theorem size_eq (h : Steps test k s t) : sizeAll s.pending = k + sizeAll t.pending := by
  induction h with
  | none s => simp
  | more first _ ih =>
      rw [size_of_step? first, ih]
      omega

theorem prospect_eq (h : Steps test k s t) : t.prospect test = s.prospect test := by
  induction h with
  | none s => rfl
  | more first _ ih => exact ih.trans (prospect_of_step? first)

theorem found_eq (h : Steps test k s t) : t.found = s.found ++ searchPending test k s.pending := by
  induction h with
  | none s => simp [searchPending]
  | more first _ ih => exact ih.trans (searchPending_of_step? first _).symm

end Steps

/-- A search can go on until it has looked at every node of the pending trees. -/
theorem exists_steps (test : Node → Bool) (s : Search) :
    ∃ t, Steps test (sizeAll s.pending) s t ∧ t.pending = [] := by
  generalize hsize : sizeAll s.pending = k
  induction k generalizing s with
  | zero =>
      refine ⟨s, .none s, ?_⟩
      cases hpending : s.pending with
      | nil => rfl
      | cons n rest =>
          -- every tree has at least its root
          rw [hpending, sizeAll, Node.size_eq] at hsize
          omega
  | succ k ih =>
      cases hstep : s.step? test with
      | none =>
          rw [step?_eq_none_iff.1 hstep] at hsize
          simp [sizeAll] at hsize
      | some t =>
          have ht : sizeAll t.pending = k := by
            have := size_of_step? hstep
            omega
          obtain ⟨u, hsteps, hu⟩ := ih t ht
          exact ⟨u, .more hstep hsteps, hu⟩

end Search

/-! ## Places -/

namespace Node

/-- The node of a tree at a place: the numbers of the children on the way to it. -/
inductive At : Node → List Nat → Node → Prop where
  | here (n : Node) : At n [] n
  | inside {n c m : Node} {i : Nat} {place : List Nat} (child : n.children[i]? = some c)
      (rest : At c place m) : At n (i :: place) m

/-- What is found below a child, seen from its parent. -/
def under (i : Nat) (entry : List Nat × Node) : List Nat × Node :=
  (i :: entry.1, entry.2)

mutual

/-- The nodes of a tree in order, each with its place. -/
def withPlaces : Node → List (List Nat × Node)
  | mk kind role start line text children =>
    ([], mk kind role start line text children) :: allWithPlaces 0 children

/-- The nodes of siblings in order, each with its place; the first sibling has the given number. -/
def allWithPlaces : Nat → List Node → List (List Nat × Node)
  | _, [] => []
  | i, n :: rest => (withPlaces n).map (under i) ++ allWithPlaces (i + 1) rest

end

theorem withPlaces_eq (n : Node) :
    n.withPlaces = ([], n) :: allWithPlaces 0 n.children := by
  cases n
  rw [withPlaces]
  rfl

mutual

theorem map_snd_withPlaces : ∀ n : Node, n.withPlaces.map Prod.snd = n.preorder
  | .mk kind role start line text children => by
    rw [withPlaces_eq, List.map_cons, map_snd_allWithPlaces, preorder_eq]

theorem map_snd_allWithPlaces (i : Nat) :
    ∀ ns : List Node, (allWithPlaces i ns).map Prod.snd = preorderAll ns
  | [] => by simp [allWithPlaces, preorderAll]
  | n :: rest => by
    -- going below a child changes places only
    have hunder : Prod.snd ∘ under i = Prod.snd := rfl
    rw [allWithPlaces, List.map_append, List.map_map, hunder, map_snd_withPlaces n,
      map_snd_allWithPlaces (i + 1) rest, preorderAll]

end

mutual

theorem mem_withPlaces_iff {place : List Nat} {m : Node} :
    ∀ {n : Node}, (place, m) ∈ n.withPlaces ↔ n.At place m
  | .mk kind role start line text children => by
    rw [withPlaces_eq, List.mem_cons, mem_allWithPlaces_iff]
    constructor
    · rintro (h | ⟨j, c, rest, hplace, hc, hm⟩)
      · cases h
        exact .here _
      · rw [hplace, Nat.zero_add]
        exact .inside hc hm
    · intro h
      cases h with
      | here => exact .inl rfl
      | @inside _ c _ i rest hc hm =>
          exact .inr ⟨i, c, rest, by rw [Nat.zero_add], hc, hm⟩

theorem mem_allWithPlaces_iff {place : List Nat} {m : Node} :
    ∀ {i : Nat} {ns : List Node}, (place, m) ∈ allWithPlaces i ns ↔
      ∃ j c rest, place = (i + j) :: rest ∧ ns[j]? = some c ∧ c.At rest m
  | i, [] => by simp [allWithPlaces]
  | i, n :: ns => by
    rw [allWithPlaces, List.mem_append, mem_allWithPlaces_iff, List.mem_map]
    constructor
    · rintro (⟨⟨rest, m'⟩, hm, h⟩ | ⟨j, c, rest, hplace, hc, hm⟩)
      · cases h
        exact ⟨0, n, rest, rfl, rfl, mem_withPlaces_iff.1 hm⟩
      · exact ⟨j + 1, c, rest, by rw [hplace]; congr 1; omega, hc, hm⟩
    · rintro ⟨j, c, rest, hplace, hc, hm⟩
      cases j with
      | zero =>
          cases hc
          exact .inl ⟨(rest, m), mem_withPlaces_iff.2 hm, by rw [hplace]; rfl⟩
      | succ j =>
          exact .inr ⟨j, c, rest, by rw [hplace]; congr 1; omega, hc, hm⟩

end

mutual

/-- Parents come before their children, and siblings in their order, with all that is below them. -/
theorem pairwise_withPlaces :
    ∀ n : Node, n.withPlaces.Pairwise fun a b => a.1 < b.1
  | .mk kind role start line text children => by
    rw [withPlaces_eq, List.pairwise_cons]
    refine ⟨?_, pairwise_allWithPlaces 0 children⟩
    rintro ⟨place, m⟩ hm
    obtain ⟨j, c, rest, rfl, -, -⟩ := mem_allWithPlaces_iff.1 hm
    exact List.nil_lt_cons _ _

theorem pairwise_allWithPlaces (i : Nat) :
    ∀ ns : List Node, (allWithPlaces i ns).Pairwise fun a b => a.1 < b.1
  | [] => by simp [allWithPlaces]
  | n :: ns => by
    rw [allWithPlaces, List.pairwise_append, List.pairwise_map]
    refine ⟨?_, pairwise_allWithPlaces (i + 1) ns, ?_⟩
    · refine (pairwise_withPlaces n).imp fun {a b} hab => ?_
      exact List.cons_lt_cons_iff.2 (.inr ⟨rfl, hab⟩)
    · rintro a ha ⟨place, m⟩ hm
      obtain ⟨b, -, rfl⟩ := List.mem_map.1 ha
      obtain ⟨j, c, rest, rfl, -, -⟩ := mem_allWithPlaces_iff.1 hm
      -- later siblings have greater numbers
      exact List.cons_lt_cons_iff.2 (.inl (by omega))

end

end Node

/-- The places of the nodes of a tree that pass a test, in order. -/
theorem exists_places (root : Node) (test : Node → Bool) :
    ∃ places : List (List Nat), places.Pairwise (· < ·) ∧
      (∀ place, place ∈ places ↔ ∃ n, root.At place n ∧ test n = true) ∧
      List.Forall₂ root.At places (root.preorder.filter test) := by
  -- the entries of the nodes that pass the test
  have hnodes : root.preorder.filter test =
      (root.withPlaces.filter (test ∘ Prod.snd)).map Prod.snd := by
    rw [← map_snd_withPlaces, List.filter_map]
  have hat : ∀ entry ∈ root.withPlaces.filter (test ∘ Prod.snd), root.At entry.1 entry.2 := by
    intro entry hentry
    exact mem_withPlaces_iff.1 (List.mem_filter.1 hentry).1
  refine ⟨(root.withPlaces.filter (test ∘ Prod.snd)).map Prod.fst, ?_, ?_, ?_⟩
  · exact List.pairwise_map.2 ((pairwise_withPlaces root).filter _)
  · intro place
    simp only [List.mem_map, List.mem_filter, Prod.exists, Function.comp_apply,
      mem_withPlaces_iff]
    constructor
    · rintro ⟨_, n, hn, rfl⟩
      exact ⟨n, hn⟩
    · rintro ⟨n, hn⟩
      exact ⟨place, n, hn, rfl⟩
  · rw [hnodes, List.forall₂_map_left_iff, List.forall₂_map_right_iff, List.forall₂_same]
    exact hat

/-! ## Searches -/

/--
A search through any tree for the nodes that pass any test, such as that of being of one of several
kinds. Each step takes one node, and at every moment the nodes found and those that the traversal of
the pending trees would give are together what the traversal of the whole tree gives; so the search
is over after as many steps as the tree has nodes, and more steps change nothing. It finds the nodes
that pass the test, each place once, in the order of places, which is that of the traversal; and
they are sorted by their start if no node of the traversal starts before the node ahead of it.
-/
theorem search_in_preorder (root : Node) (test : Node → Bool) :
    (∀ k s, Search.Steps test k (.start root) s →
      k + sizeAll s.pending = root.size ∧ s.found = searchPending test k [root] ∧
        s.found ++ (preorderAll s.pending).filter test = root.preorder.filter test) ∧
    (∃ done, Search.Steps test root.size (.start root) done ∧ done.step? test = none ∧
      done.found = root.search test) ∧
    (∀ steps, root.size ≤ steps → searchPending test steps [root] = root.search test) ∧
    root.search test = root.preorder.filter test ∧
    (∃ places : List (List Nat), places.Pairwise (· < ·) ∧
      (∀ place, place ∈ places ↔ ∃ n, root.At place n ∧ test n = true) ∧
      List.Forall₂ root.At places (root.search test)) ∧
    ((root.preorder.map Node.start).IsChain (· ≤ ·) →
      ((root.search test).map Node.start).Pairwise (· ≤ ·)) := by
  have hsize : sizeAll [root] = root.size := by simp [sizeAll]
  have hnodes : preorderAll [root] = root.preorder := by simp [preorderAll]
  refine ⟨?_, ?_, ?_, search_eq root test, ?_, ?_⟩
  · intro k s hsteps
    refine ⟨?_, hsteps.found_eq, ?_⟩
    · rw [← hsteps.size_eq]
      exact hsize
    · simpa [Search.prospect, Search.start, hnodes] using hsteps.prospect_eq
  · obtain ⟨done, hsteps, hdone⟩ := Search.exists_steps test (.start root)
    have hcount : sizeAll (Search.start root).pending = root.size := hsize
    rw [hcount] at hsteps
    exact ⟨done, hsteps, Search.step?_eq_none_iff.2 hdone, hsteps.found_eq⟩
  · intro steps hsteps
    rw [searchPending_eq test (by omega), hnodes, search_eq]
  · rw [search_eq]
    exact exists_places root test
  · intro hchain
    rw [search_eq]
    -- what passes the test is part of the traversal
    have hpart : ((root.preorder.filter test).map Node.start).Sublist
        (root.preorder.map Node.start) := List.filter_sublist.map _
    exact (List.isChain_iff_pairwise.1 hchain).sublist hpart

/-- A call whose function is a call on a call, and whose argument is a function with a call. -/
def nestedCalls : Node :=
  .mk .call .none 0 0 "a()()(() => b())"
    [.mk .call .function 0 0 "a()()"
      [.mk .call .function 0 0 "a()" [.mk .other .function 0 0 "a" []]],
    .mk .arguments .arguments 5 0 "(() => b())"
      [.mk .other .none 6 0 "() => b()" [.mk .call .body 12 0 "b()" []]]]

theorem search_in_preorder_nestedCalls :
    (nestedCalls.preorder.map Node.start).IsChain (· ≤ ·) ∧
      ((nestedCalls.ofKind .call).map Node.text = ["a()()(() => b())", "a()()", "a()", "b()"]) ∧
      ((nestedCalls.ofKind .call).map Node.start).Pairwise (· ≤ ·) := by
  have hchain : (nestedCalls.preorder.map Node.start).IsChain (· ≤ ·) := by decide
  obtain ⟨-, -, -, -, -, hsorted⟩ := search_in_preorder nestedCalls fun n => n.kind == .call
  exact ⟨hchain, by decide, hsorted hchain⟩

end Syntax
end RoleAudit
