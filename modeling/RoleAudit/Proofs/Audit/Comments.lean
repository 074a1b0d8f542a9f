import RoleAudit.Proofs.Audit.Provenance
import RoleAudit.Proofs.Controller.Comments

/-!
# Comments in what is audited

The sources of controllers and policies may hold comments. Most change nothing of what is read, but
those count that stand where the first child of a node is taken, or all of them.

- `isUnspoiled`: no comment is put in front of what a class passes first to the class above;
- `constraintsRead_commented`: then the conditions of policies stay the same;
- `firstText_of_comment`: with a comment in front of it, nothing is read;
- `reading_among_comments`: which comments change nothing, and what the others change.
-/

namespace RoleAudit

open Syntax Syntax.Node

/-! ## Conditions of policies -/

/-- What a call has as its first argument. -/
def firstArgument? (call : Node) : Option Node :=
  (call.child? .arguments).bind fun a => a.children.head?

/-- There is none, or one of the same kind again, and no comment is put into a template. -/
def keepsText : Option Node → Option Node → Bool
  | none, none => true
  | some a, some a' => a'.kind == a.kind && (a.kind != .template || a.isKept a')
  | _, _ => false

/-- No comment is put in front of the first argument of a call, or into a template there. -/
def keepsFirst (n n' : Node) : Bool :=
  keepsText (firstArgument? n) (firstArgument? n')

/--
No comment is put where a policy is read from a node: into the name of a class, or in front of what it
passes first to the class above.
-/
def isUnspoiled (n n' : Node) : Bool :=
  match n.kind with
  | .classDeclaration => keepsChild .name n n'
  | .call => !isSuperCall n || keepsFirst n n'
  | _ => true

/-- The text of a first argument, if it is one. -/
def givenText (first : Node) : String :=
  if first.kind == .string || first.kind == .template then valueText first else ""

theorem firstText_eq_elim (call : Node) :
    firstText call = (firstArgument? call).elim "" givenText := by
  unfold firstText firstArgument? givenText
  split <;> simp [*]

theorem givenText_of_comment {c : Node} (hc : c.kind = .comment) : givenText c = "" := by
  simp [givenText, hc]

/-- With a comment in front of the first argument of a call, no text is read. -/
theorem firstText_of_comment {call c : Node} (hfirst : firstArgument? call = some c)
    (hc : c.kind = .comment) : firstText call = "" := by
  rw [firstText_eq_elim, hfirst, Option.elim_some, givenText_of_comment hc]

/-- A text stays the same; in a string no comment can stand. -/
theorem givenText_eq {test : Node → Node → Bool} {n n' : Node} (h : n.Commented test n')
    (hkept : n.kind = .template → n.isKept n' = true) : givenText n' = givenText n := by
  unfold givenText
  rw [h.kind_eq]
  split
  · rename_i hkind
    refine valueText_eq_of_keepsValue h ?_
    rw [Bool.or_eq_true, beq_iff_eq, beq_iff_eq] at hkind
    rcases hkind with hkind | hkind
    · simp [keepsValue, isKept, isToken, hkind]
    · simpa [keepsValue, hkind] using hkept hkind
  · rfl

theorem isSuperCall_eq {test : Node → Node → Bool} {n n' : Node} (h : n.Commented test n') :
    isSuperCall n' = isSuperCall n := by
  have hfunction := h.child? .function (by decide)
  unfold isSuperCall
  generalize n.child? .function = left, n'.child? .function = right at hfunction
  cases hfunction with
  | none => rfl
  | some hf => simp only [Option.map_some, hf.kind_eq]

/-- The text of the first of some siblings stays the same, if this one is of the same kind. -/
theorem elim_givenText_head? {test : Node → Node → Bool} {ns ns' : List Node}
    (h : AllCommented test ns ns') (hkeeps : keepsText ns.head? ns'.head? = true) :
    ns'.head?.elim "" givenText = ns.head?.elim "" givenText := by
  cases h with
  | nil => rfl
  | comment hc _ =>
      -- then the first one was a comment before, which gives no text either
      cases ns with
      | nil => cases hkeeps
      | cons n rest =>
          simp only [List.head?_cons, keepsText, Bool.and_eq_true, beq_iff_eq] at hkeeps
          rw [List.head?_cons, List.head?_cons, Option.elim_some, Option.elim_some,
            givenText_of_comment hc.1, givenText_of_comment (hkeeps.1.symm.trans hc.1)]
  | cons hn _ =>
      simp only [List.head?_cons, keepsText, Bool.and_eq_true, Bool.or_eq_true, bne_iff_ne] at hkeeps
      exact givenText_eq hn fun hkind => hkeeps.2.resolve_left fun hother => hother hkind

/-- The text of a first argument stays the same. -/
theorem firstText_eq {test : Node → Node → Bool} {n n' : Node} (h : n.Commented test n')
    (hkeeps : keepsFirst n n' = true) : firstText n' = firstText n := by
  have hlist := h.child? .arguments (by decide)
  unfold keepsFirst at hkeeps
  rw [firstText_eq_elim, firstText_eq_elim]
  unfold firstArgument? at hkeeps ⊢
  generalize n.child? .arguments = left, n'.child? .arguments = right at hlist hkeeps
  cases hlist with
  | none => rfl
  | some ha =>
      rw [Option.bind_some, Option.bind_some] at hkeeps ⊢
      exact elim_givenText_head? ha.children hkeeps

/-- A class passes on the same text. -/
theorem superArgument_eq {n n' : Node} (h : n.Commented isUnspoiled n') :
    superArgument n' = superArgument n := by
  have hcalls := forall₂_and_mem (h.ofKind .call (by decide))
  have hfound := rel_find? hcalls fun c c' hc => isSuperCall_eq hc.1
  unfold superArgument
  generalize hleft : (n.ofKind .call).find? isSuperCall = left,
    (n'.ofKind .call).find? isSuperCall = right at hfound
  cases hfound with
  | none => rfl
  | @some c c' hc =>
      obtain ⟨hc, hmem, _⟩ := hc
      -- the first argument of other calls is not tested
      have hkept := hc.tested
      rw [isUnspoiled, kind_of_mem_ofKind hmem] at hkept
      simp only [List.find?_some hleft, Bool.not_true, Bool.false_or] at hkept
      rw [Option.map_some, Option.map_some, firstText_eq hc hkept]

/-- The classes of a source pass on the same texts. -/
theorem passedOn_eq {source source' : String}
    (h : (Node.ofSource source).Commented isUnspoiled (Node.ofSource source')) :
    passedOn source' = passedOn source := by
  unfold passedOn namedClasses
  rw [List.map_map, List.map_map]
  have hclasses := forall₂_and_mem (h.ofKind .classDeclaration (by decide))
  refine map_eq_of_forall₂ hclasses fun c c' hc => ?_
  obtain ⟨hc, hmem, _⟩ := hc
  have hkept := hc.tested
  rw [isUnspoiled, kind_of_mem_ofKind hmem] at hkept
  simp only [Function.comp_apply, childText_eq_of_keepsChild hc (by decide) hkept,
    superArgument_eq hc]

/-- The conditions of policies stay the same if no comment is put where they are read. -/
theorem constraintsRead_commented {source source' : String} (policies : List String)
    (h : (Node.ofSource source).Commented isUnspoiled (Node.ofSource source')) :
    constraintsRead policies source' = constraintsRead policies source := by
  rw [constraintsRead_eq, constraintsRead_eq]
  unfold conditionIn passedBy?
  rw [passedOn_eq h]

/-! ## What is read among comments -/

/--
Comments change no fact but lines where nothing is disturbed, and no condition where nothing is
spoiled. Elsewhere they count: among the arguments of a decorator, or the elements of an array there,
each is one more argument, with its own text; right after the sign of a decorator it is read as all
that the decorator says; and in front of the first argument of a call it hides the text of that.
-/
theorem reading_among_comments (policies : List String) {source source' : String} :
    ((Node.ofSource source).Commented isUndisturbed (Node.ofSource source') →
      (ControllerFacts.ofSource source').unlined = (ControllerFacts.ofSource source).unlined) ∧
    ((Node.ofSource source).Commented isUnspoiled (Node.ofSource source') →
      constraintsRead policies source' = constraintsRead policies source) ∧
    (∀ {test : Node → Node → Bool} {n n' : Node}, n.Commented test n' →
      n'.children.length = n.children.length →
        (Decorator.ofNode n').arguments.length +
            (Decorator.items n).countP (·.kind == .comment) =
          (Decorator.ofNode n).arguments.length +
            (Decorator.items n').countP (·.kind == .comment)) ∧
    (∀ {n c : Node}, c ∈ Decorator.items n → c.kind = .comment →
      c.text ∈ (Decorator.ofNode n).arguments) ∧
    (∀ {n c : Node}, n.children.head? = some c → c.kind = .comment →
      Decorator.ofNode n = ⟨c.text, n.start, [], []⟩) ∧
    (∀ {call c : Node}, firstArgument? call = some c → c.kind = .comment → firstText call = "") :=
  ⟨unlined_ofSource, constraintsRead_commented policies, Decorator.length_arguments_commented,
    Decorator.text_mem_arguments_of_comment, Decorator.ofNode_of_comment, firstText_of_comment⟩

/-- A class with an endpoint, and what it passes to the class above. -/
def terse : String := "class P extends Q\x7b@Get()b()\x7bsuper('c')\x7d\x7d"

/-- The same class with two comments, where they change nothing. -/
def terseRemarked : String := "class P extends Q\x7b@Get()/**/b()\x7bsuper('c'/**/)\x7d\x7d"

/-- A comment without text. -/
def remark : Node := .mk .comment .none 7 0 "/**/" []

/-- What is passed to a function by a call. -/
def passing (function : String) (items : List Node) : Node :=
  .mk .call .none 1 0 (function ++ "(…)")
    [.mk .other .function 1 0 function [], .mk .arguments .arguments 6 0 "(…)" items]

/-- A decorator that passes on some items. -/
def rolesMark (items : List Node) : Node :=
  .mk .decorator .none 0 0 "@Roles(…)" [passing "Roles" items]

/-- A role in quotes. -/
def quotedRole : Node := .mk .string .none 11 0 "'A'" []

theorem reading_among_comments_roles :
    (ControllerFacts.ofSource terseRemarked).unlined = (ControllerFacts.ofSource terse).unlined ∧
      constraintsRead ["P"] terseRemarked = constraintsRead ["P"] terse ∧
      (Decorator.ofNode (rolesMark [remark, quotedRole])).arguments.length + 0 =
        (Decorator.ofNode (rolesMark [quotedRole])).arguments.length + 1 ∧
      "/**/" ∈ (Decorator.ofNode (rolesMark [remark, quotedRole])).arguments ∧
      Decorator.ofNode (.mk .decorator .none 0 0 "@/**/Get" [remark]) = ⟨"/**/", 0, [], []⟩ ∧
      firstText (passing "super" [remark, quotedRole]) = "" := by
  obtain ⟨hfacts, hconditions, hcount, htext, hname, hhidden⟩ :=
    @reading_among_comments ["P"] terse terseRemarked
  -- the two sources differ in a comment only, where it is not read
  obtain ⟨hundisturbed, hunspoiled⟩ :
      check isUndisturbed (Node.ofSource terse) (Node.ofSource terseRemarked) = true ∧
        check isUnspoiled (Node.ofSource terse) (Node.ofSource terseRemarked) = true := by
    decide +kernel
  refine ⟨hfacts (commented_of_check hundisturbed), hconditions (commented_of_check hunspoiled),
    ?_, ?_, ?_, ?_⟩
  · have hroles : (rolesMark [quotedRole]).Commented (fun _ _ => true)
        (rolesMark [remark, quotedRole]) := commented_of_check (by decide)
    exact hcount hroles (by decide)
  · have hitem : remark ∈ Decorator.items (rolesMark [remark, quotedRole]) := List.mem_cons_self
    exact htext hitem (by decide)
  · have hhead : (Node.mk .decorator .none 0 0 "@/**/Get" [remark]).children.head? =
        some remark := rfl
    exact hname hhead (by decide)
  · have hfirst : firstArgument? (passing "super" [remark, quotedRole]) = some remark := rfl
    exact hhidden hfirst (by decide)

end RoleAudit
