import RoleAudit.Proofs.Controller.Stretches
import RoleAudit.Proofs.Controller.Undisturbed

/-!
# Comments in a controller

Comments may stand in a controller wherever its facts are not read from all children of a node, or
from the text of a node that spans them.

- `isUndisturbed`: no comment is put where facts are read from a node;
- `stretches_alike`, `unlined_ofMethod`: methods and their decorators then say the same;
- `ControllerFacts.unlined`: facts without the lines of endpoints;
- `unlined_ofSource`: these stay the same with comments anywhere else.
-/

namespace RoleAudit

open Syntax Syntax.Node

/-! ## Undisturbed places -/

/-- No comment is put where the decorators of a node are read. -/
def keepsMarks (n n' : Node) : Bool :=
  matchesAll Decorator.isUndisturbed (n.children.filter fun c => c.kind == .decorator)
    (n'.children.filter fun c => c.kind == .decorator)

/-- A parameter of a function. -/
def isParameter (n : Node) : Bool :=
  n.kind == .parameter || n.kind == .optionalParameter

/-- No comment is put into the pattern or the type of a parameter. -/
def keepsParameters (n n' : Node) : Bool :=
  matchesAll (fun p p' => keepsChild .pattern p p' && keepsChild .type p p')
    (((n.child? .parameters).elim [] children).filter isParameter)
    (((n'.child? .parameters).elim [] children).filter isParameter)

/--
No comment is put where facts are read from a node: into its decorators as far as they are read, its
name, what it imports, or the parameters of a constructor.
-/
def isUndisturbed (n n' : Node) : Bool :=
  match n.kind with
  | .classDeclaration => keepsMarks n n' && keepsChild .name n n'
  | .abstractClass => keepsMarks n n' && keepsChild .name n n'
  | .exportStatement => keepsMarks n n'
  | .classBody => keepsMarks n n'
  | .method =>
    keepsMarks n n' && keepsChild .name n n' &&
      (n.childText .name != constructorName || keepsParameters n n')
  | .importStatement => matchesAll keepsValue (n.child? .source).toList (n'.child? .source).toList
  | .importSpecifier => keepsChild .name n n' && keepsChild .newName n n'
  | .member => keepsChild .property n n'
  | _ => true

/-! ## Decorators that say the same -/

section Alike

variable {ds ds' : List Decorator} (h : List.Forall₂ Decorator.Alike ds ds')

include h

theorem rel_find?_name (name : String) :
    Option.Rel Decorator.Alike (ds.find? fun d => d.name == name)
      (ds'.find? fun d => d.name == name) :=
  rel_find? h fun d d' hd => by rw [hd.name]

/-- The nearest decorators of a purpose say the same. -/
theorem rel_nearest? (names : List String) (hds : ds.Pairwise fun a b => a.place < b.place)
    (hds' : ds'.Pairwise fun a b => a.place < b.place) :
    Option.Rel Decorator.Alike (Decorator.nearest? names ds) (Decorator.nearest? names ds') := by
  rw [nearest?_eq_getLast? names hds, nearest?_eq_getLast? names hds']
  exact rel_getLast? (forall₂_filter h _ fun d d' hd => by rw [hd.name])

end Alike

/-- Undisturbed decorators of two nodes say the same. -/
theorem decoratorsOf_alike {test : Node → Node → Bool} {n n' : Node} (h : n.Commented test n')
    (hmarks : keepsMarks n n' = true) :
    List.Forall₂ Decorator.Alike (decoratorsOf n) (decoratorsOf n') := by
  have hpairs := forall₂_of_matchesAll (h.children.filter_kind .decorator (by decide)) hmarks
  unfold decoratorsOf
  rw [List.forall₂_map_left_iff, List.forall₂_map_right_iff]
  exact hpairs.imp fun d d' hd => Decorator.alike_of_isUndisturbed hd.1 hd.2

/-! ## Methods and their decorators -/

/-- A method, and what becomes of it. -/
structure MethodFound.Alike (m m' : MethodFound) : Prop where
  node : m.node.Commented isUndisturbed m'.node
  name : m'.name = m.name

theorem keepsChild_name_of_method {n n' : Node} (h : n.Commented isUndisturbed n')
    (hkind : n.kind = .method) : keepsMarks n n' = true ∧ keepsChild .name n n' = true ∧
      (n.childText .name = constructorName → keepsParameters n n' = true) := by
  have htest := h.tested
  rw [isUndisturbed, hkind] at htest
  simp only [Bool.and_eq_true, Bool.or_eq_true, bne_iff_ne] at htest
  exact ⟨htest.1.1, htest.1.2, htest.2.neg_resolve_left⟩

/-- The methods among members are found again. -/
theorem foundIn_alike {ns ns' : List Node} (h : AllCommented isUndisturbed ns ns') :
    List.Forall₂ MethodFound.Alike (foundIn ns) (foundIn ns') := by
  unfold foundIn
  rw [List.filterMap_filter, List.filterMap_filter]
  refine h.filterMap (fun c hc => by simp [hc.1]) fun n n' hn => ?_
  rw [hn.kind_eq]
  split
  · rename_i hkind
    -- its name is the same child, in front of which there is no comment
    have hname := hn.child? .name (by decide)
    have hkept := (keepsChild_name_of_method hn (by simpa using hkind)).2.1
    unfold keepsChild at hkept
    unfold MethodFound.ofNode?
    generalize n.child? .name = left, n'.child? .name = right at hname hkept
    cases hname with
    | none => exact .none
    | some hm => exact .some ⟨hn, hm.text_eq hkept⟩
  · exact .none

/-- A member brings decorators that say the same. -/
theorem ownMarks_alike {n n' : Node} (h : n.Commented isUndisturbed n')
    (hmark : n.kind = .decorator → Decorator.isUndisturbed n n' = true) :
    List.Forall₂ Decorator.Alike (ownMarks n) (ownMarks n') := by
  unfold ownMarks
  rw [h.kind_eq]
  split
  · rename_i hkind
    exact .cons (Decorator.alike_of_isUndisturbed h (hmark hkind)) .nil
  · rename_i hkind
    exact decoratorsOf_alike h (keepsChild_name_of_method h hkind).1
  · exact .nil

/-- The methods of a body are found again, with stretches that say the same. -/
theorem stretches_alike {ns ns' : List Node} (h : AllCommented isUndisturbed ns ns')
    (hmarks : List.Forall₂ (fun n n' => Decorator.isUndisturbed n n' = true)
      (ns.filter fun n => n.kind == .decorator) (ns'.filter fun n => n.kind == .decorator))
    {pending pending' : List Decorator} (hpending : List.Forall₂ Decorator.Alike pending pending') :
    List.Forall₂ (fun e e' => MethodFound.Alike e.1 e'.1 ∧ List.Forall₂ Decorator.Alike e.2 e'.2)
      (stretches pending ns) (stretches pending' ns') := by
  induction ns' generalizing ns pending pending' with
  | nil =>
      cases h
      exact .nil
  | cons c ns' ih =>
      cases h with
      | comment hc hrest =>
          -- a comment brings no decorator, and what waits goes on waiting
          have hown : ownMarks c = [] := by simp [ownMarks, hc.1]
          rw [stretches_cons_of_ne (by simp [hc.1]), hown, List.append_nil]
          rw [List.filter_cons_of_neg (by simp [hc.1])] at hmarks
          exact ih hrest hmarks hpending
      | @cons n _ ns _ hn hrest =>
          have hfound := foundIn_alike (.cons hn .nil)
          obtain ⟨hmark, hothers⟩ : (n.kind = .decorator → Decorator.isUndisturbed n c = true) ∧
              List.Forall₂ (fun n n' => Decorator.isUndisturbed n n' = true)
                (ns.filter fun n => n.kind == .decorator)
                (ns'.filter fun n => n.kind == .decorator) := by
            rw [List.filter_cons, List.filter_cons, hn.kind_eq] at hmarks
            split at hmarks
            · cases hmarks with
              | cons hfirst hothers => exact ⟨fun _ => hfirst, hothers⟩
            · rename_i hkind
              exact ⟨fun hmark => absurd hmark (by simpa using hkind), hmarks⟩
          have hbefore := List.rel_append hpending (ownMarks_alike hn hmark)
          rw [stretches, stretches]
          -- both are a method that ends a stretch, or neither is
          generalize foundIn [n] = left, foundIn [c] = right at hfound
          cases hfound with
          | nil => exact ih hrest hothers hbefore
          | cons hm _ => exact .cons ⟨hm, hbefore⟩ (ih hrest hothers .nil)

/-! ## Calls -/

theorem serviceCall?_eq {n n' : Node} (h : n.Commented isUndisturbed n') :
    serviceCall? n' = serviceCall? n := by
  have hproperty : ∀ m m' : Node, m.Commented isUndisturbed m' → m.kind = .member →
      m'.childText .property = m.childText .property := by
    intro m m' hm hkind
    have htest := hm.tested
    rw [isUndisturbed, hkind] at htest
    exact childText_eq_of_keepsChild hm (by decide) htest
  have hfunction := h.child? .function (by decide)
  -- both calls are read side by side, from one child to the next
  unfold serviceCall?
  generalize n.child? .function = left, n'.child? .function = right at hfunction
  cases hfunction with
  | none => rfl
  | @some f f' hf =>
      simp only [Option.bind_eq_bind, Option.bind_some, hf.kind_eq]
      split
      · rfl
      rename_i hmember
      have howner := hf.child? .object (by decide)
      have hown := hproperty f f' hf (by simpa using hmember)
      generalize f.child? .object = left, f'.child? .object = right at howner
      cases howner with
      | none => rfl
      | @some o o' ho =>
          simp only [Option.bind_some, ho.kind_eq]
          split
          · rfl
          rename_i howner
          have hholder := ho.child? .object (by decide)
          have hname := hproperty o o' ho (by simpa using howner)
          generalize o.child? .object = left, o'.child? .object = right at hholder
          cases hholder with
          | none => rfl
          | some hr => simp only [Option.bind_some, hr.kind_eq, hname, hown]

/-- A body calls the same methods of services. -/
theorem callsIn_eq {n n' : Node} (h : n.Commented isUndisturbed n') (caller : String) :
    callsIn caller n' = callsIn caller n := by
  unfold callsIn
  rw [filterMap_eq_of_forall₂ (h.ofKind .call (by decide)) fun c c' hc => by
    rw [serviceCall?_eq hc]]

/-! ## Endpoints -/

/-- An endpoint without its line. -/
def Endpoint.unlined (e : Endpoint) : Endpoint :=
  { e with line := 0 }

theorem Endpoint.unlined_congr {e e' : Endpoint} (name : e'.name = e.name)
    (action : e'.action = e.action) (roles : e'.roles = e.roles) (policy : e'.policy = e.policy)
    (route : e'.route = e.route) (calls : e'.calls = e.calls) : e'.unlined = e.unlined := by
  rw [unlined, unlined, name, action, roles, policy, route, calls]

/-- A method calls the same methods of services. -/
theorem calls_ofMethod {m m' : MethodFound} (h : m.Alike m') (ds ds' : List Decorator) :
    (Endpoint.ofMethod m' ds').calls = (Endpoint.ofMethod m ds).calls := by
  have hbody := h.node.child? .body (by decide)
  unfold Endpoint.ofMethod
  dsimp only
  generalize m.node.child? .body = body, m'.node.child? .body = body' at hbody
  cases hbody with
  | none => rfl
  | @some body body' hb =>
      change callsIn m'.name body' = callsIn m.name body
      rw [h.name, callsIn_eq hb]

/-- What is made of a method depends on what its decorators say. -/
theorem unlined_ofMethod {m m' : MethodFound} (hm : m.Alike m') {ds ds' : List Decorator}
    (h : List.Forall₂ Decorator.Alike ds ds') (hds : ds.Pairwise fun a b => a.place < b.place)
    (hds' : ds'.Pairwise fun a b => a.place < b.place) :
    (Endpoint.ofMethod m' ds').unlined = (Endpoint.ofMethod m ds).unlined := by
  -- each part is read from the nearest decorator of one purpose
  have hread : ∀ (names : List String) {β : Type} (read : Decorator → Option β),
      (∀ d d' : Decorator, d.Alike d' → read d' = read d) →
        (Decorator.nearest? names ds').bind read = (Decorator.nearest? names ds).bind read :=
    fun names β read hsame => bind_eq_of_rel (rel_nearest? h names hds hds') hsame
  have haction := hread actionMarks (fun d => some (Text.upper d.name)) fun d d' hd => by
    rw [hd.name]
  have hroles := hread roleMarks (fun d => some d.arguments) fun d d' hd => by rw [hd.arguments]
  have hpolicy := hread policyMarks (fun d => d.constructed.head?) fun d d' hd => by
    rw [hd.constructed]
  have hroute := hread actionMarks (fun d => some (d.arguments.head?.getD "")) fun d d' hd => by
    rw [hd.arguments]
  refine Endpoint.unlined_congr ?_ ?_ ?_ ?_ ?_ (calls_ofMethod hm ds ds')
  · exact hm.name
  · simp only [Endpoint.ofMethod, Option.map_eq_bind, Function.comp_def, haction]
  · simp only [Endpoint.ofMethod, Option.map_eq_bind, Function.comp_def, hroles]
  · simp only [Endpoint.ofMethod, hpolicy]
  · simp only [Endpoint.ofMethod, Option.map_eq_bind, Function.comp_def, hroute]

/-- All decorators and names of members stand behind a place that all members stand behind. -/
theorem le_of_mem_anchorsOf {low : Nat} {ns : List Node} (hlow : ∀ n ∈ ns, low ≤ n.start)
    (hstarts : ∀ n ∈ ns, n.kind ≠ .comment → ∀ c ∈ n.children, n.start ≤ c.start) :
    ∀ p ∈ anchorsOf ns, low ≤ p := by
  intro p hp
  obtain ⟨n, hn, hp⟩ := List.mem_flatMap.1 hp
  have hbelow : n.kind = .method → ∀ c ∈ n.children, low ≤ c.start := fun hkind c hc =>
    Nat.le_trans (hlow n hn) (hstarts n hn (by simp [hkind]) c hc)
  rcases List.mem_append.1 hp with hp | hp
  · obtain ⟨d, hd, rfl⟩ := List.mem_map.1 hp
    -- a decorator is the member itself or inside a method
    unfold ownMarks at hd
    split at hd
    · rw [List.mem_singleton.1 hd, Decorator.place_ofNode]
      exact hlow n hn
    · rename_i hkind
      obtain ⟨c, hc, rfl⟩ := List.mem_map.1 hd
      rw [Decorator.place_ofNode]
      exact hbelow hkind c (List.mem_filter.1 hc).1
    · cases hd
  · obtain ⟨m, hm, rfl⟩ := List.mem_map.1 hp
    -- a name lies in its method
    obtain ⟨n', hn', hfound⟩ := List.mem_filterMap.1 hm
    obtain ⟨hn', hkind⟩ := List.mem_filter.1 hn'
    obtain rfl := List.mem_singleton.1 hn'
    obtain ⟨name, hname, rfl⟩ := Option.map_eq_some_iff.1 hfound
    exact hbelow (by simpa using hkind) name (List.mem_of_find?_eq_some hname)

/-- The endpoints of a body in which nothing is disturbed stay the same but for their lines. -/
theorem unlined_endpointsOf {body body' : Node} (h : body.Commented isUndisturbed body')
    (hkind : body.kind = .classBody) (horder : InOrder body.children)
    (horder' : InOrder body'.children) :
    (endpointsOf body').map Endpoint.unlined = (endpointsOf body).map Endpoint.unlined := by
  have hmarks : keepsMarks body body' = true := by
    have htest := h.tested
    rwa [isUndisturbed, hkind] at htest
  have hpairs := (forall₂_of_matchesAll
    (h.children.filter_kind .decorator (by decide)) hmarks).imp fun _ _ hd => hd.2
  have hstart := le_of_mem_anchorsOf h.start_le fun n hn _ => (h.children.of_mem hn).elim
    fun n' hn' => hn'.2.start_le
  have hstart' := le_of_mem_anchorsOf h.start_le' fun n' hn' hkind' =>
    (h.children.of_mem' hn').elim (fun hc => absurd hc.1 hkind') fun ⟨n, _, hn⟩ => hn.start_le'
  have hbefore : Waiting body.start [] body.children := ⟨horder.named, horder.ascending, hstart⟩
  have hbefore' : Waiting body'.start [] body'.children :=
    ⟨horder'.named, horder'.ascending, hstart'⟩
  -- all places move, so windows are compared as stretches
  have hstretches := forall₂_filter (stretches_alike h.children hpairs .nil)
    (fun e => e.1.name != constructorName) fun e e' he => by rw [he.1.name]
  rw [endpointsOf_eq_stretches horder hstart, endpointsOf_eq_stretches horder' hstart',
    List.map_map, List.map_map]
  refine map_eq_of_forall₂ (forall₂_and_mem hstretches) fun e e' he => ?_
  obtain ⟨⟨hm, hds⟩, hmem, hmem'⟩ := he
  exact unlined_ofMethod hm hds (pairwise_of_mem_stretches hbefore (List.mem_filter.1 hmem).1)
    (pairwise_of_mem_stretches hbefore' (List.mem_filter.1 hmem').1)

/-! ## Parameters and imports -/

theorem typedParameter?_eq {n n' : Node} (h : n.Commented isUndisturbed n')
    (hkeeps : (keepsChild .pattern n n' && keepsChild .type n n') = true) :
    typedParameter? n' = typedParameter? n := by
  rw [Bool.and_eq_true] at hkeeps
  have hpattern := h.child? .pattern (by decide)
  have hkept := hkeeps.1
  have htype := childText_eq_of_keepsChild h (by decide) hkeeps.2
  unfold keepsChild at hkept
  unfold typedParameter?
  rw [h.kind_eq, htype]
  generalize n.child? .pattern = left, n'.child? .pattern = right at hpattern hkept
  cases hpattern with
  | none => rfl
  | some hp => simp only [Option.bind_eq_bind, Option.bind_some, hp.text_eq hkept]

/-- Only parameters are typed. -/
theorem filterMap_typedParameter? (ns : List Node) :
    ns.filterMap typedParameter? = (ns.filter isParameter).filterMap typedParameter? := by
  rw [List.filterMap_filter]
  refine List.filterMap_congr fun n _ => ?_
  split
  · rfl
  · rename_i hother
    have hkinds : n.kind ≠ .parameter ∧ n.kind ≠ .optionalParameter := by
      simpa [isParameter] using hother
    simp [typedParameter?, hkinds.1, hkinds.2]

/-- A constructor in which no parameter is disturbed keeps its parameters. -/
theorem filterMap_parameters_eq {n n' : Node} (h : n.Commented isUndisturbed n')
    (hkeeps : keepsParameters n n' = true) :
    ((n'.child? .parameters).elim [] children).filterMap typedParameter? =
      ((n.child? .parameters).elim [] children).filterMap typedParameter? := by
  have hlist := h.child? .parameters (by decide)
  unfold keepsParameters at hkeeps
  rw [filterMap_typedParameter?, filterMap_typedParameter? (Option.elim (n.child? _) _ _)]
  generalize n.child? .parameters = left, n'.child? .parameters = right at hlist hkeeps
  cases hlist with
  | none => rfl
  | some hp =>
      have hpairs := hp.children.filter isParameter (fun c hc => by simp [isParameter, hc.1])
        fun n n' hn => by rw [isParameter, isParameter, hn.kind_eq]
      exact filterMap_eq_of_forall₂ (forall₂_of_matchesAll hpairs hkeeps) fun p p' hp =>
        typedParameter?_eq hp.1 hp.2

/-- The node of a constructor; a later one counts. -/
def constructor? (body : Node) : Option Node :=
  (body.children.filter fun c =>
    c.kind == .method && c.childText .name == constructorName).getLast?

theorem constructorParameters_eq_elim (body : Node) : constructorParameters body =
    (constructor? body).elim [] fun c =>
      ((c.child? .parameters).elim [] children).filterMap typedParameter? := by
  unfold constructorParameters constructor?
  dsimp only
  split
  · rename_i hlast
    rw [hlast]
    rfl
  · rename_i c hlast
    rw [hlast, Option.elim_some]
    cases c.child? .parameters <;> rfl

/-- The constructor is found again, and its parameters are not disturbed. -/
theorem rel_constructor? {body body' : Node} (h : body.Commented isUndisturbed body') :
    Option.Rel (fun c c' => c.Commented isUndisturbed c' ∧ keepsParameters c c' = true)
      (constructor? body) (constructor? body') := by
  have hconstructors := h.children.filter
    (fun c => c.kind == .method && c.childText .name == constructorName)
    (fun c hc => by simp [hc.1]) fun n n' hn => by
      by_cases hkind : n.kind = .method
      · have hkept := (keepsChild_name_of_method hn hkind).2.1
        have hname := childText_eq_of_keepsChild hn (by decide) hkept
        rw [hn.kind_eq, hname]
      · have hother : (n.kind == Kind.method) = false := by simpa using hkind
        rw [hn.kind_eq, hother, Bool.false_and, Bool.false_and]
  refine rel_getLast? ((forall₂_and_mem hconstructors).imp fun c c' hc => ?_)
  obtain ⟨hc, hmem, _⟩ := hc
  have hsort := (List.mem_filter.1 hmem).2
  rw [Bool.and_eq_true, beq_iff_eq, beq_iff_eq] at hsort
  exact ⟨hc, (keepsChild_name_of_method hc hsort.1).2.2 hsort.2⟩

/-- The constructor keeps its parameters. -/
theorem constructorParameters_eq {body body' : Node} (h : body.Commented isUndisturbed body') :
    constructorParameters body' = constructorParameters body := by
  have hfound := rel_constructor? h
  rw [constructorParameters_eq_elim, constructorParameters_eq_elim]
  generalize constructor? body = left, constructor? body' = right at hfound
  cases hfound with
  | none => rfl
  | some hc => exact filterMap_parameters_eq hc.1 hc.2

/-- A name that is imported stays the same, under its new name if it gets one. -/
theorem importedName_eq {n n' : Node} (h : n.Commented isUndisturbed n')
    (hkind : n.kind = .importSpecifier) (path : String) :
    importedName path n' = importedName path n := by
  have hkept := h.tested
  rw [isUndisturbed, hkind, Bool.and_eq_true] at hkept
  have hnew := h.child? .newName (by decide)
  have hnewKept := hkept.2
  have hname := childText_eq_of_keepsChild h (by decide) hkept.1
  unfold keepsChild at hnewKept
  unfold importedName
  generalize n.child? .newName = left, n'.child? .newName = right at hnew hnewKept
  cases hnew with
  | none => simp only [hname]
  | some hn => simp only [hn.text_eq hnewKept]

/-- A statement imports the same names. -/
theorem importsOf_eq {n n' : Node} (h : n.Commented isUndisturbed n')
    (hkind : n.kind = .importStatement) : importsOf n' = importsOf n := by
  have hkept := h.tested
  rw [isUndisturbed, hkind] at hkept
  have hsource := h.child? .source (by decide)
  unfold importsOf
  -- the path and every specifier are found again
  generalize n.child? .source = left, n'.child? .source = right at hsource hkept
  cases hsource with
  | none => rfl
  | @some s s' hs =>
      have hpairs := forall₂_of_matchesAll (.cons hs .nil) hkept
      rw [List.forall₂_cons] at hpairs
      have hspecifiers := forall₂_and_mem (h.ofKind .importSpecifier (by decide))
      change (n'.ofKind .importSpecifier).map (importedName (valueText s')) =
        (n.ofKind .importSpecifier).map (importedName (valueText s))
      rw [valueText_eq_of_keepsValue hs hpairs.1.2]
      exact map_eq_of_forall₂ hspecifiers fun i i' hi =>
        importedName_eq hi.1 (kind_of_mem_ofKind hi.2.1) (valueText s)

/-- The names that a source imports stay the same. -/
theorem importsIn_eq {root root' : Node} (h : root.Commented isUndisturbed root') :
    importsIn root' = importsIn root := by
  have hstatements := forall₂_and_mem (h.children.filter_kind .importStatement (by decide))
  have himports := map_eq_of_forall₂ (f := importsOf) hstatements fun i i' hi =>
    importsOf_eq hi.1 (by simpa using (List.mem_filter.1 hi.2.1).2)
  rw [importsIn, importsIn, List.flatMap_def, List.flatMap_def, himports]

/-! ## Classes -/

/-- A class, and what becomes of it. -/
structure ClassFound.Alike (c c' : ClassFound) : Prop where
  body : c.body.Commented isUndisturbed c'.body
  name : c'.node.childText .name = c.node.childText .name
  decorators : List.Forall₂ Decorator.Alike c.decorators c'.decorators

/-- The decorators of the export that holds a node. -/
def exportedMarks (parent : Option Node) : List Decorator :=
  parent.elim [] fun p => if p.kind == .exportStatement then decoratorsOf p else []

theorem ofNode?_eq (parent : Option Node) (n : Node) : ClassFound.ofNode? parent n =
    if n.kind == .classDeclaration || n.kind == .abstractClass then
      (n.child? .body).map fun body => ⟨n, body, decoratorsOf n ++ exportedMarks parent⟩
    else none := by
  unfold ClassFound.ofNode?
  cases n.child? .body <;> cases parent <;> rfl

/-- Undisturbed decorators of an export say the same. -/
theorem exportedMarks_alike {parent parent' : Option Node}
    (h : Option.Rel (Commented isUndisturbed) parent parent') :
    List.Forall₂ Decorator.Alike (exportedMarks parent) (exportedMarks parent') := by
  cases h with
  | none => exact .nil
  | @some p p' hp =>
      unfold exportedMarks
      rw [Option.elim_some, Option.elim_some, hp.kind_eq]
      split
      · rename_i hkind
        have hmarks := hp.tested
        rw [isUndisturbed, eq_of_beq hkind] at hmarks
        exact decoratorsOf_alike hp hmarks
      · exact .nil

/-- The classes of a source are found again. -/
theorem picksAlike_classes : PicksAlike isUndisturbed ClassFound.Alike
    (fun entry => ClassFound.ofNode? entry.1 entry.2)
    (fun entry => ClassFound.ofNode? entry.1 entry.2) where
  comment parent c hc := by simp [ofNode?_eq, hc.1]
  pair {parent parent' n n'} hparent hn := by
    have hbody := hn.child? .body (by decide)
    rw [ofNode?_eq, ofNode?_eq, hn.kind_eq]
    split
    · rename_i hkind
      -- abstract classes are tested as others are
      obtain ⟨hmarks, hname⟩ : keepsMarks n n' = true ∧ keepsChild .name n n' = true := by
        have htest := hn.tested
        rw [Bool.or_eq_true, beq_iff_eq, beq_iff_eq] at hkind
        rcases hkind with hkind | hkind <;>
          · rw [isUndisturbed, hkind] at htest
            exact Bool.and_eq_true_iff.1 htest
      generalize n.child? .body = left, n'.child? .body = right at hbody
      cases hbody with
      | none => exact .none
      | some hb =>
          exact .some ⟨hb, childText_eq_of_keepsChild hn (by decide) hname,
            List.rel_append (decoratorsOf_alike hn hmarks) (exportedMarks_alike hparent)⟩
    · exact .none

theorem classes_alike {root root' : Node} (h : root.Commented isUndisturbed root') :
    List.Forall₂ ClassFound.Alike (classes root) (classes root') :=
  h.filterMap_withParents picksAlike_classes .none

theorem isController_eq {c c' : ClassFound} (h : c.Alike c') :
    c'.isController = c.isController := by
  have hfound := rel_find?_name h.decorators controllerMark
  unfold ClassFound.isController
  rw [Bool.eq_iff_iff, List.any_eq_true, List.any_eq_true, ← List.find?_isSome, ← List.find?_isSome]
  generalize List.find? _ c.decorators = left, List.find? _ c'.decorators = right at hfound
  cases hfound <;> rfl

theorem basePath_eq {c c' : ClassFound}
    (h : List.Forall₂ Decorator.Alike c.decorators c'.decorators) : c'.basePath = c.basePath := by
  have hfound := rel_find?_name h controllerMark
  unfold ClassFound.basePath
  generalize List.find? _ c.decorators = left, List.find? _ c'.decorators = right at hfound
  cases hfound with
  | none => rfl
  | some hd => simp only [hd.arguments]

/-- The same class is selected. -/
theorem rel_selected? {related : ClassFound → ClassFound → Prop} {cs cs' : List ClassFound}
    (h : List.Forall₂ related cs cs')
    (hcontroller : ∀ c c', related c c' → c'.isController = c.isController) :
    Option.Rel related (selected? cs) (selected? cs') := by
  have hfound := rel_find? h hcontroller
  unfold selected?
  generalize cs.find? ClassFound.isController = left, cs'.find? ClassFound.isController = right
    at hfound
  cases hfound with
  | none => exact rel_head? h
  | some hc => exact .some hc

/-! ## Facts -/

/-- Facts without the lines of endpoints. -/
def ControllerFacts.unlined (f : ControllerFacts) : ControllerFacts :=
  { f with endpoints := f.endpoints.map Endpoint.unlined }

/-- The facts of a source in which nothing is disturbed stay the same but for their lines. -/
theorem unlined_ofSource {source source' : String}
    (h : (Node.ofSource source).Commented isUndisturbed (Node.ofSource source')) :
    (ControllerFacts.ofSource source').unlined = (ControllerFacts.ofSource source).unlined := by
  have hselected := rel_selected? (forall₂_and_mem (classes_alike h)) fun c c' hc =>
    isController_eq hc.1
  have himports := importsIn_eq h
  unfold ControllerFacts.ofSource ControllerFacts.ofTree
  generalize selected? (classes (Node.ofSource source)) = left,
    selected? (classes (Node.ofSource source')) = right at hselected
  cases hselected with
  | none => simp only [himports]
  | @some c c' hc =>
      obtain ⟨hc, hmem, hmem'⟩ := hc
      have hkind := (body_of_mem_classes (sound_ofSource source) hmem).2
      -- the class that is selected is found again, with endpoints that differ in their lines only
      have hendpoints := unlined_endpointsOf hc.body hkind (inOrder_of_mem_classes hmem)
        (inOrder_of_mem_classes hmem')
      simp only [ControllerFacts.unlined, ControllerFacts.ofClass, himports, hc.name,
        basePath_eq hc.decorators, hendpoints, constructorParameters_eq hc.body]

end RoleAudit
