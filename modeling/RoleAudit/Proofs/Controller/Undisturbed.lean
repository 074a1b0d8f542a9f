import RoleAudit.Proofs.Related
import RoleAudit.Proofs.Syntax.Commented

/-!
# Decorators among comments

Comments are nodes of a tree like any others, so that what takes the first child of a node, or all of
them, takes comments too. Where this happens when a decorator is read:

- `Decorator.items`: the nodes that the arguments of a decorator are read from;
- `Decorator.isUndisturbed`: no comment is put where a decorator is read;
- `Decorator.alike_of_isUndisturbed`: then it says the same;
- `Decorator.length_arguments_commented`, `Decorator.text_mem_arguments_of_comment`: a comment among
  the arguments counts as an argument;
- `Decorator.ofNode_of_comment`: one right after the sign counts as the name.
-/

namespace RoleAudit

open Syntax Syntax.Node

/-! ## Parts of a decorator -/

namespace Decorator

/-- Two decorators that say the same. -/
structure Alike (d d' : Decorator) : Prop where
  name : d'.name = d.name
  arguments : d'.arguments = d.arguments
  constructed : d'.constructed = d.constructed

/-- What a decorator applies by its name. -/
def target? (n : Node) : Option Node :=
  n.children.head?.bind fun applied =>
    if applied.kind == .call then applied.child? .function else some applied

/-- The arguments that a decorator passes on. -/
def argumentList? (n : Node) : Option Node :=
  n.children.head?.bind fun applied =>
    if applied.kind == .call then applied.child? .arguments else none

/-- The nodes that one argument gives values of. -/
def itemsOf (argument : Node) : List Node :=
  match argument.kind with
  | .array => argument.children
  | .construction => []
  | _ => [argument]

/-- The nodes that a decorator reads its arguments from. -/
def items (n : Node) : List Node :=
  (argumentList? n).elim [] fun a => a.children.flatMap itemsOf

/-- The direct constructions in the arguments of a decorator, then all of them. -/
def constructions (n : Node) : List Node :=
  (argumentList? n).elim [] fun a =>
    (a.children.filter fun c => c.kind == .construction) ++ a.ofKind .construction

theorem valuesOf_eq (argument : Node) : valuesOf argument = (itemsOf argument).map valueText := by
  unfold valuesOf itemsOf
  cases argument.kind <;> rfl

theorem name_ofNode (n : Node) : (ofNode n).name = nameOf (target? n) := by
  unfold ofNode target?
  cases n.children with
  | nil => rfl
  | cons applied rest =>
      rw [List.head?_cons, Option.bind_some]
      dsimp only
      split
      · cases applied.child? .arguments <;> rfl
      · rfl

theorem arguments_ofNode (n : Node) : (ofNode n).arguments = (items n).map valueText := by
  unfold ofNode items argumentList?
  cases n.children with
  | nil => rfl
  | cons applied rest =>
      rw [List.head?_cons, Option.bind_some]
      dsimp only
      split
      · cases applied.child? .arguments with
        | none => rfl
        | some a =>
            rw [Option.elim_some, List.map_flatMap]
            exact List.flatMap_congr fun c _ => valuesOf_eq c
      · rfl

theorem constructed_ofNode (n : Node) :
    (ofNode n).constructed = (argumentList? n).elim [] constructedIn := by
  unfold ofNode argumentList?
  cases n.children with
  | nil => rfl
  | cons applied rest =>
      rw [List.head?_cons, Option.bind_some]
      dsimp only
      split
      · cases applied.child? .arguments <;> rfl
      · rfl

end Decorator

/-! ## Undisturbed places -/

/-- Two lists match pair by pair. -/
def matchesAll (test : Node → Node → Bool) (ns ns' : List Node) : Bool :=
  ns'.length == ns.length && (ns.zip ns').all fun (n, n') => test n n'

/-- No comment is put into the child in a role. -/
def keepsChild (role : Role) (n n' : Node) : Bool :=
  match n.child? role, n'.child? role with
  | some m, some m' => m.isKept m'
  | _, _ => true

/-- No comment is put where the value of an argument is read. -/
def keepsValue (n n' : Node) : Bool :=
  if n.kind == .member then keepsChild .property n n' else n.isKept n'

/--
No comment is put where a decorator is read: neither after its sign, nor into its name, nor among its
arguments or the elements of an array of them, nor into one of these, nor into the name of a class.
-/
def Decorator.isUndisturbed (n n' : Node) : Bool :=
  n'.children.length == n.children.length &&
    matchesAll keepsValue (target? n).toList (target? n').toList &&
    matchesAll keepsValue (items n) (items n') &&
    matchesAll (keepsChild .constructor) (constructions n) (constructions n')

section Readings

variable {test : Node → Node → Bool} {n n' : Node} (h : n.Commented test n')

include h

theorem childText_eq_of_keepsChild {role : Role} (hrole : role ≠ .none)
    (hkeeps : keepsChild role n n' = true) : n'.childText role = n.childText role := by
  have hchild := h.child? role hrole
  unfold keepsChild at hkeeps
  unfold childText
  generalize n.child? role = left, n'.child? role = right at hchild hkeeps
  cases hchild with
  | none => rfl
  | some hm => exact hm.text_eq hkeeps

theorem valueText_eq_of_keepsValue (hkeeps : keepsValue n n' = true) :
    valueText n' = valueText n := by
  unfold keepsValue at hkeeps
  unfold valueText
  rw [h.kind_eq]
  split
  · rename_i hkind
    rw [h.text_eq (by simpa [hkind] using hkeeps)]
  · rename_i hkind
    rw [h.text_eq (by simpa [hkind] using hkeeps)]
  · rename_i hkind
    exact childText_eq_of_keepsChild h (by decide) (by simpa [hkind] using hkeeps)
  · have hother : n.kind ≠ .member := by assumption
    exact h.text_eq (by simpa [hother] using hkeeps)

theorem nameOf_eq_of_keepsValue (hkeeps : keepsValue n n' = true) :
    Decorator.nameOf (some n') = Decorator.nameOf (some n) := by
  unfold keepsValue at hkeeps
  unfold Decorator.nameOf
  dsimp only
  rw [h.kind_eq]
  split
  · rename_i hkind
    exact childText_eq_of_keepsChild h (by decide) (by simpa [hkind] using hkeeps)
  · rename_i hkind
    exact h.text_eq (by simpa [hkind] using hkeeps)

end Readings

/-- Related lists that match are related pair by pair by both. -/
theorem forall₂_of_matchesAll {related : Node → Node → Prop} {test : Node → Node → Bool}
    {ns ns' : List Node} (h : List.Forall₂ related ns ns')
    (hmatches : matchesAll test ns ns' = true) :
    List.Forall₂ (fun n n' => related n n' ∧ test n n' = true) ns ns' := by
  rw [matchesAll, Bool.and_eq_true, List.all_eq_true] at hmatches
  refine List.forall₂_iff_zip.2 ⟨h.length_eq, fun hpair => ⟨List.forall₂_zip h hpair, ?_⟩⟩
  exact hmatches.2 _ hpair

namespace Decorator

section Commented

variable {test : Node → Node → Bool} {n n' : Node} (h : n.Commented test n')

/-- Each item of an argument is an item again, and a comment in an array is a further one. -/
theorem allCommented_itemsOf {a a' : Node} (ha : a.Commented test a') :
    AllCommented test (itemsOf a) (itemsOf a') := by
  unfold itemsOf
  rw [ha.kind_eq]
  split
  · exact ha.children
  · exact .nil
  · exact .cons ha .nil

theorem allCommented_flatMap_itemsOf {ns ns' : List Node} (hns : AllCommented test ns ns') :
    AllCommented test (ns.flatMap itemsOf) (ns'.flatMap itemsOf) :=
  hns.flatMap (fun c hc => by
    have hitem : itemsOf c = [c] := by simp [itemsOf, hc.1]
    rw [hitem]
    exact .comment hc .nil) fun a a' ha => allCommented_itemsOf ha

include h

variable (hlength : n'.children.length = n.children.length)

include hlength

theorem rel_target? : Option.Rel (Commented test) (target? n) (target? n') := by
  have hhead := rel_head? (h.children.forall₂ hlength)
  unfold target?
  generalize n.children.head? = left, n'.children.head? = right at hhead
  cases hhead with
  | none => exact .none
  | @some a a' ha =>
      rw [Option.bind_some, Option.bind_some, ha.kind_eq]
      split
      · exact ha.child? _ (by decide)
      · exact .some ha

theorem rel_argumentList? :
    Option.Rel (Commented test) (argumentList? n) (argumentList? n') := by
  have hhead := rel_head? (h.children.forall₂ hlength)
  unfold argumentList?
  generalize n.children.head? = left, n'.children.head? = right at hhead
  cases hhead with
  | none => exact .none
  | @some a a' ha =>
      rw [Option.bind_some, Option.bind_some, ha.kind_eq]
      split
      · exact ha.child? _ (by decide)
      · exact .none

/-- A decorator reads its arguments from the same nodes and from the comments among them. -/
theorem allCommented_items : AllCommented test (items n) (items n') := by
  have hlist := rel_argumentList? h hlength
  unfold items
  generalize argumentList? n = left, argumentList? n' = right at hlist
  cases hlist with
  | none => exact .nil
  | some ha => exact allCommented_flatMap_itemsOf ha.children

omit hlength in
/-- The classes constructed in arguments have the same names, if no comment is put into these. -/
theorem constructedIn_eq_of_matchesAll
    (hmatches : matchesAll (keepsChild .constructor)
      ((n.children.filter fun c => c.kind == .construction) ++ n.ofKind .construction)
      ((n'.children.filter fun c => c.kind == .construction) ++ n'.ofKind .construction) = true) :
    constructedIn n' = constructedIn n := by
  have hdirect := h.children.filter_kind .construction (by decide)
  have hdeep := h.ofKind .construction (by decide)
  have hnames := map_eq_of_forall₂ (f := classOf)
    (forall₂_of_matchesAll (List.rel_append hdirect hdeep) hmatches)
    fun c c' hc => childText_eq_of_keepsChild hc.1 (by decide) hc.2
  rw [List.map_append, List.map_append] at hnames
  obtain ⟨hdirectNames, hdeepNames⟩ := List.append_inj hnames (by simp [hdirect.length_eq])
  unfold constructedIn
  rw [hdirectNames, hdeepNames]

omit hlength in
/-- An undisturbed decorator says the same. -/
theorem alike_of_isUndisturbed (hundisturbed : isUndisturbed n n' = true) :
    Alike (ofNode n) (ofNode n') := by
  rw [isUndisturbed] at hundisturbed
  simp only [Bool.and_eq_true, beq_iff_eq] at hundisturbed
  obtain ⟨⟨⟨hlength, htarget⟩, hitems⟩, hclasses⟩ := hundisturbed
  refine ⟨?_, ?_, ?_⟩
  · -- the name
    have hrel := rel_target? h hlength
    rw [name_ofNode, name_ofNode]
    generalize target? n = left, target? n' = right at hrel htarget
    cases hrel with
    | none => rfl
    | some ht =>
        have hpairs := forall₂_of_matchesAll (.cons ht .nil) htarget
        rw [List.forall₂_cons] at hpairs
        exact nameOf_eq_of_keepsValue ht hpairs.1.2
  · -- the arguments
    have hcount : (items n').length = (items n).length := by
      rw [matchesAll, Bool.and_eq_true, beq_iff_eq] at hitems
      exact hitems.1
    have hrel := (allCommented_items h hlength).forall₂ hcount
    rw [arguments_ofNode, arguments_ofNode]
    exact map_eq_of_forall₂ (forall₂_of_matchesAll hrel hitems) fun a a' ha =>
      valueText_eq_of_keepsValue ha.1 ha.2
  · -- the classes that are constructed
    have hrel := rel_argumentList? h hlength
    rw [constructed_ofNode, constructed_ofNode]
    unfold constructions at hclasses
    generalize argumentList? n = left, argumentList? n' = right at hrel hclasses
    cases hrel with
    | none => rfl
    | some ha => exact constructedIn_eq_of_matchesAll ha hclasses

/--
Every comment among the arguments of a decorator, or among the elements of an array of them, counts
as an argument.
-/
theorem length_arguments_commented :
    (ofNode n').arguments.length + (items n).countP (·.kind == .comment) =
      (ofNode n).arguments.length + (items n').countP (·.kind == .comment) := by
  rw [arguments_ofNode, arguments_ofNode, List.length_map, List.length_map]
  exact (allCommented_items h hlength).length_add_countP

end Commented

/-- A comment among the arguments is an argument itself. -/
theorem text_mem_arguments_of_comment {n c : Node} (hmem : c ∈ items n) (hc : c.kind = .comment) :
    c.text ∈ (ofNode n).arguments := by
  rw [arguments_ofNode]
  refine List.mem_map.2 ⟨c, hmem, ?_⟩
  simp [valueText, hc]

/-- A comment right after the sign of a decorator is read as its name. -/
theorem ofNode_of_comment {n c : Node} (hhead : n.children.head? = some c)
    (hc : c.kind = .comment) : ofNode n = ⟨c.text, n.start, [], []⟩ := by
  unfold ofNode
  cases hchildren : n.children with
  | nil => simp [hchildren] at hhead
  | cons applied rest =>
      rw [hchildren, List.head?_cons, Option.some.injEq] at hhead
      subst hhead
      simp [hc, nameOf]

end Decorator

end RoleAudit
