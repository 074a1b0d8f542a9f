import RoleAudit.Proofs.Controller.Comments
import RoleAudit.Proofs.Controller.Nearest
import RoleAudit.Proofs.First

/-!
# The class that counts

One class of a source is its controller, and nothing else in the source says anything about it.

- `Declares`, `Carries`: a node declares a class, and carries the mark of a controller;
- `IsSelected`: the first class with the mark, or else the first class;
- `selected?_eq_some_iff`: it is the one that is taken;
- `unlined_endpointsOf_shift`, `constructorParameters_shift`: a body that is moved says the same;
- `SameClass`: classes that differ in where they stand at most;
- `ControllerFacts.AgreesOn`: facts that differ in lines and imports at most;
- `only_selected_counts`: sources that share their controller agree, whatever else they hold.
-/

namespace RoleAudit

open Syntax

/-! ## Nodes with their parents -/

namespace Syntax
namespace Node

mutual

/-- Each node is a child of its parent, and only the first one has the parent that was given. -/
theorem parent_of_mem_withParents {parent above : Option Node} {m : Node} :
    ∀ {n : Node}, (above, m) ∈ n.withParents parent →
      above = parent ∧ m = n ∨ ∃ p, above = some p ∧ m ∈ p.children
  | .mk kind role start line text children, h => by
    rw [withParents_eq, List.mem_cons] at h
    rcases h with h | h
    · cases h
      exact .inl ⟨rfl, rfl⟩
    · rcases parent_of_mem_allWithParents h with ⟨rfl, hm⟩ | hbelow
      · exact .inr ⟨_, rfl, hm⟩
      · exact .inr hbelow

theorem parent_of_mem_allWithParents {parent above : Option Node} {m : Node} :
    ∀ {ns : List Node}, (above, m) ∈ allWithParents parent ns →
      above = parent ∧ m ∈ ns ∨ ∃ p, above = some p ∧ m ∈ p.children
  | [], h => by
    rw [allWithParents] at h
    cases h
  | n :: rest, h => by
    rw [allWithParents, List.mem_append] at h
    rcases h with h | h
    · rcases parent_of_mem_withParents h with ⟨hparent, rfl⟩ | hbelow
      · exact .inl ⟨hparent, List.mem_cons_self⟩
      · exact .inr hbelow
    · rcases parent_of_mem_allWithParents h with ⟨hparent, hm⟩ | hbelow
      · exact .inl ⟨hparent, List.mem_cons_of_mem n hm⟩
      · exact .inr hbelow

end

@[simp]
theorem child?_withRole (above role : Role) (n : Node) :
    (n.withRole above).child? role = n.child? role := by
  cases n
  rfl

@[simp]
theorem childText_withRole (above role : Role) (n : Node) :
    (n.withRole above).childText role = n.childText role := by
  cases n
  rfl

end Node
end Syntax

/-! ## The selected class -/

/-- A node, given with its parent, declares a class with a body. -/
def Declares (entry : Option Node × Node) : Prop :=
  (entry.2.kind = .classDeclaration ∨ entry.2.kind = .abstractClass) ∧
    (entry.2.child? .body).isSome

/-- A node carries the mark of a controller, itself or by the export that holds it. -/
def Carries (entry : Option Node × Node) : Prop :=
  ∃ d : Node, d.kind = .decorator ∧ (Decorator.ofNode d).name = controllerMark ∧
    (d ∈ entry.2.children ∨ ∃ p, entry.1 = some p ∧ p.kind = .exportStatement ∧ d ∈ p.children)

/-- Among nodes in order, the first class that carries the mark, or the first one if none does. -/
inductive IsSelected (entries : List (Option Node × Node)) (entry : Option Node × Node) : Prop
  | marked (h : FirstOf (fun e => Declares e ∧ Carries e) entry entries)
  | unmarked (hnone : ∀ e ∈ entries, Declares e → ¬ Carries e)
      (h : FirstOf Declares entry entries)

/-- What is kept of a node that declares a class. -/
structure ClassFound.IsAt (c : ClassFound) (parent : Option Node) (n : Node) : Prop where
  node : c.node = n
  body : n.child? .body = some c.body
  decorators : c.decorators = decoratorsOf n ++ exportedMarks parent

theorem ofNode?_eq_some_iff {parent : Option Node} {n : Node} {c : ClassFound} :
    ClassFound.ofNode? parent n = some c ↔ Declares (parent, n) ∧ c.IsAt parent n := by
  rw [ofNode?_eq]
  constructor
  · intro h
    split at h
    · rename_i hkind
      obtain ⟨body, hbody, rfl⟩ := Option.map_eq_some_iff.1 h
      exact ⟨⟨by simpa using hkind, by rw [hbody]; rfl⟩, rfl, hbody, rfl⟩
    · cases h
  · rintro ⟨⟨hkind, -⟩, rfl, hbody, hdecorators⟩
    rw [if_pos (by simpa using hkind), hbody, Option.map_some, ← hdecorators]

theorem exists_ofNode?_iff {entry : Option Node × Node} :
    (∃ c, ClassFound.ofNode? entry.1 entry.2 = some c) ↔ Declares entry := by
  constructor
  · rintro ⟨c, hc⟩
    exact (ofNode?_eq_some_iff.1 hc).1
  · intro h
    obtain ⟨body, hbody⟩ := Option.isSome_iff_exists.1 h.2
    exact ⟨⟨entry.2, body, _⟩, ofNode?_eq_some_iff.2 ⟨h, rfl, hbody, rfl⟩⟩

theorem mem_decoratorsOf {n : Node} {d : Decorator} :
    d ∈ decoratorsOf n ↔ ∃ m ∈ n.children, m.kind = .decorator ∧ Decorator.ofNode m = d := by
  unfold decoratorsOf
  rw [List.mem_map]
  simp only [List.mem_filter, beq_iff_eq, and_assoc]

theorem mem_exportedMarks {parent : Option Node} {d : Decorator} :
    d ∈ exportedMarks parent ↔
      ∃ p, parent = some p ∧ p.kind = .exportStatement ∧ d ∈ decoratorsOf p := by
  unfold exportedMarks
  cases parent with
  | none => simp
  | some p => by_cases hkind : p.kind = .exportStatement <;> simp [hkind]

/-- A class that is kept is a controller if its node carries the mark. -/
theorem isController_iff {parent : Option Node} {n : Node} {c : ClassFound} (h : c.IsAt parent n) :
    c.isController = true ↔ Carries (parent, n) := by
  unfold ClassFound.isController
  rw [List.any_eq_true, h.decorators]
  simp only [List.mem_append, mem_exportedMarks, mem_decoratorsOf, beq_iff_eq]
  constructor
  · rintro ⟨d, ⟨m, hm, hkind, rfl⟩ | ⟨p, hp, hexport, m, hm, hkind, rfl⟩, hname⟩
    · exact ⟨m, hkind, hname, .inl hm⟩
    · exact ⟨m, hkind, hname, .inr ⟨p, hp, hexport, hm⟩⟩
  · rintro ⟨m, hkind, hname, hm | ⟨p, hp, hexport, hm⟩⟩
    · exact ⟨_, .inl ⟨m, hm, hkind, rfl⟩, hname⟩
    · exact ⟨_, .inr ⟨p, hp, hexport, m, hm, hkind, rfl⟩, hname⟩

theorem exists_controller_iff {entry : Option Node × Node} :
    (∃ c, ClassFound.ofNode? entry.1 entry.2 = some c ∧ c.isController = true) ↔
      Declares entry ∧ Carries entry := by
  constructor
  · rintro ⟨c, hc, hcontroller⟩
    obtain ⟨hdeclares, hat⟩ := ofNode?_eq_some_iff.1 hc
    exact ⟨hdeclares, (isController_iff hat).1 hcontroller⟩
  · rintro ⟨hdeclares, hcarries⟩
    obtain ⟨c, hc⟩ := exists_ofNode?_iff.2 hdeclares
    exact ⟨c, hc, (isController_iff (ofNode?_eq_some_iff.1 hc).2).2 hcarries⟩

/-- The controller is the first class with the mark, or the first class if none has it. -/
theorem selected?_eq_some_iff_firstOf {found : List ClassFound} {c : ClassFound} :
    selected? found = some c ↔
      FirstOf (fun c => c.isController = true) c found ∨
        (∀ d ∈ found, ¬ d.isController = true) ∧ FirstOf (fun _ => True) c found := by
  -- the first class of all is the head of the list
  have hfirst : FirstOf (fun _ => True) c found ↔ found.head? = some c := by
    cases found with
    | nil => exact ⟨nofun, nofun⟩
    | cons d rest =>
        constructor
        · intro h
          cases h with
          | here _ => rfl
          | later hd _ => exact absurd trivial hd
        · rintro h
          cases h
          exact .here trivial
  rw [firstOf_iff_find?, hfirst, ← List.find?_eq_none]
  unfold selected?
  cases found.find? ClassFound.isController <;> simp

/-- The first class of a kind is kept of the first node of that kind. -/
theorem firstOf_classes_iff {kind : ClassFound → Prop} {nodeKind : Option Node × Node → Prop}
    (hkind : ∀ e, (∃ c, ClassFound.ofNode? e.1 e.2 = some c ∧ kind c) ↔ nodeKind e) {root : Node}
    {c : ClassFound} :
    FirstOf kind c (classes root) ↔ ∃ e, FirstOf nodeKind e (root.withParents none) ∧
      ClassFound.ofNode? e.1 e.2 = some c := by
  rw [← funext fun e => propext (hkind e)]
  exact firstOf_filterMap_iff

theorem selected?_eq_some_iff {root : Node} {c : ClassFound} :
    selected? (classes root) = some c ↔
      ∃ parent n, IsSelected (root.withParents none) (parent, n) ∧ c.IsAt parent n := by
  have hmarked := @firstOf_classes_iff _ _ (fun e => @exists_controller_iff e) root c
  have hplain := @firstOf_classes_iff (fun _ => True) Declares
    (fun e => by simpa using @exists_ofNode?_iff e) root c
  -- a class is kept of each node that declares one, so that both sides look for the same marks
  have hnone : (∀ d ∈ classes root, ¬ d.isController = true) ↔
      ∀ e ∈ root.withParents none, Declares e → ¬ Carries e := by
    constructor
    · intro h e he hdeclares hcarries
      obtain ⟨d, hd, hcontroller⟩ := exists_controller_iff.2 ⟨hdeclares, hcarries⟩
      exact h d (List.mem_filterMap.2 ⟨e, he, hd⟩) hcontroller
    · intro h d hd hcontroller
      obtain ⟨e, he, hfound⟩ := List.mem_filterMap.1 hd
      obtain ⟨hdeclares, hcarries⟩ := exists_controller_iff.1 ⟨d, hfound, hcontroller⟩
      exact h e he hdeclares hcarries
  rw [selected?_eq_some_iff_firstOf, hmarked, hplain, hnone]
  constructor
  · rintro (⟨⟨parent, n⟩, hfirst, hc⟩ | ⟨hnone, ⟨parent, n⟩, hfirst, hc⟩)
    · exact ⟨parent, n, .marked hfirst, (ofNode?_eq_some_iff.1 hc).2⟩
    · exact ⟨parent, n, .unmarked hnone hfirst, (ofNode?_eq_some_iff.1 hc).2⟩
  · rintro ⟨parent, n, hselected, hat⟩
    cases hselected with
    | marked h =>
        exact .inl ⟨(parent, n), h, ofNode?_eq_some_iff.2 ⟨h.holds.1, hat⟩⟩
    | unmarked hnone h =>
        exact .inr ⟨hnone, (parent, n), h, ofNode?_eq_some_iff.2 ⟨h.holds, hat⟩⟩

theorem selected?_eq_none_iff {root : Node} :
    selected? (classes root) = none ↔ ∀ e ∈ root.withParents none, ¬ Declares e := by
  have hnil : ∀ found : List ClassFound, selected? found = none ↔ found = [] := by
    intro found
    unfold selected?
    cases found with
    | nil => simp
    | cons c rest => cases List.find? ClassFound.isController (c :: rest) <;> simp
  rw [hnil, classes, List.filterMap_eq_nil_iff]
  refine forall₂_congr fun e _ => ?_
  rw [← exists_ofNode?_iff, Option.eq_none_iff_forall_ne_some]
  simp

/-! ## Bodies that are moved -/

section Moved

variable (places lines : Nat)

theorem foundIn_shift (ns : List Node) :
    foundIn (ns.map (Node.shift places lines)) =
      (foundIn ns).map (MethodFound.shift places lines) := by
  unfold foundIn
  rw [List.filter_map, List.filterMap_map, List.map_filterMap]
  simp only [Function.comp_def, Node.kind_shift, MethodFound.ofNode?_shift]

theorem methodsOf_shift (body : Node) :
    methodsOf (body.shift places lines) =
      (methodsOf body).map (MethodFound.shift places lines) := by
  have hfound := foundIn_shift places lines body.children
  unfold foundIn at hfound
  unfold methodsOf
  rw [Node.children_shift, hfound, ordered_map]
  intro a b
  simp [MethodFound.shift]

theorem memberDecorators_shift (body : Node) :
    memberDecorators (body.shift places lines) =
      (memberDecorators body).map (Decorator.moved places) := by
  rw [memberDecorators_eq, memberDecorators_eq, Node.children_shift, List.flatMap_map,
    List.map_flatMap]
  exact List.flatMap_congr fun n _ => ownMarks_shift places lines n

/-- Windows are stretches between places, so that they move with what they hold. -/
theorem windows_shift (ds : List Decorator) (low : Nat) (ms : List MethodFound) :
    windows (ds.map (Decorator.moved places)) (low + places)
        (ms.map (MethodFound.shift places lines)) =
      (windows ds low ms).map
        (Prod.map (MethodFound.shift places lines) (List.map (Decorator.moved places))) := by
  induction ms generalizing low with
  | nil => rfl
  | cons m rest ih =>
      have hrest := ih m.place
      -- both bounds and the decorators between them move by the same number of places
      have hwindow : (ds.map (Decorator.moved places)).filter
            (fun d => low + places ≤ d.place && d.place < m.place + places) =
          (ds.filter fun d => low ≤ d.place && d.place < m.place).map (Decorator.moved places) := by
        rw [List.filter_map]
        congr 2
        funext d
        simp [Decorator.moved]
      rw [List.map_cons, windows, windows, List.map_cons]
      exact congrArg₂ List.cons (congrArg (Prod.mk _) hwindow) hrest

/-- A body that is moved has the same endpoints, but for their lines. -/
theorem unlined_endpointsOf_shift (body : Node) :
    (endpointsOf (body.shift places lines)).map Endpoint.unlined =
      (endpointsOf body).map Endpoint.unlined := by
  unfold endpointsOf markedMethods
  rw [methodsOf_shift, memberDecorators_shift, Node.start_shift, windows_shift, List.filter_map,
    List.map_map, List.map_map, List.map_map]
  refine List.map_congr_left fun ⟨m, window⟩ _ => ?_
  have hmoved := congrArg Endpoint.unlined (ofMethod_shift places lines m window)
  exact hmoved

theorem typedParameter?_shift (n : Node) :
    typedParameter? (n.shift places lines) = typedParameter? n := by
  simp [typedParameter?, Option.bind_map]

theorem constructor?_shift (body : Node) :
    constructor? (body.shift places lines) =
      (constructor? body).map (Node.shift places lines) := by
  unfold constructor?
  rw [Node.children_shift, List.filter_map, List.getLast?_map]
  simp only [Function.comp_def, Node.kind_shift, Node.childText_shift]

theorem constructorParameters_shift (body : Node) :
    constructorParameters (body.shift places lines) = constructorParameters body := by
  rw [constructorParameters_eq_elim, constructorParameters_eq_elim, constructor?_shift]
  cases constructor? body with
  | none => rfl
  | some c =>
      rw [Option.map_some, Option.elim_some, Option.elim_some, Node.child?_shift]
      cases c.child? .parameters with
      | none => rfl
      | some parameters =>
          simp [List.filterMap_map, typedParameter?_shift]

end Moved

/-! ## What a source says -/

/-- Two classes differ in where they stand at most, and their decorators say the same. -/
structure SameClass (c c' : ClassFound) : Prop where
  node : ∃ places lines places' lines',
    (c.node.shift places lines).withRole .none = (c'.node.shift places' lines').withRole .none
  decorators : List.Forall₂ Decorator.Alike c.decorators c'.decorators

/-- Facts that differ in the lines of endpoints and in imports at most. -/
structure ControllerFacts.AgreesOn (f f' : ControllerFacts) : Prop where
  className : f.className = f'.className
  basePath : f.basePath = f'.basePath
  methods : f.methods = f'.methods
  roles : f.roles = f'.roles
  actions : f.actions = f'.actions
  policies : f.policies = f'.policies
  routes : f.routes = f'.routes
  calls : f.calls = f'.calls
  parameters : f.parameters = f'.parameters

/-- All but the lines of endpoints is read from endpoints without lines. -/
theorem agreesOn_of_unlined {f f' : ControllerFacts} (className : f.className = f'.className)
    (basePath : f.basePath = f'.basePath) (parameters : f.parameters = f'.parameters)
    (h : f.endpoints.map Endpoint.unlined = f'.endpoints.map Endpoint.unlined) : f.AgreesOn f' := by
  have hread : ∀ {β : Type} (read : Endpoint → β), (∀ e : Endpoint, read e.unlined = read e) →
      f.endpoints.map read = f'.endpoints.map read := by
    intro β read hread
    have hboth := congrArg (List.map read) h
    simpa only [List.map_map, Function.comp_def, hread] using hboth
  refine ⟨className, basePath, hread _ fun _ => rfl, hread _ fun _ => rfl, hread _ fun _ => rfl,
    hread _ fun _ => rfl, ?_, ?_, parameters⟩
  · have hroutes := hread (fun e => e.route.map fun r => (e.name, r)) fun _ => rfl
    have hentries := congrArg (List.filterMap id) hroutes
    rw [List.filterMap_map, List.filterMap_map] at hentries
    exact congrArg tableOf hentries
  · rw [ControllerFacts.calls, ControllerFacts.calls, List.flatMap_def, List.flatMap_def,
      hread _ fun _ => rfl]

theorem agreesOn_ofClass (imports imports' : List ImportedName) {c c' : ClassFound}
    (hbody : c.node.child? .body = some c.body) (hbody' : c'.node.child? .body = some c'.body)
    (h : SameClass c c') :
    (ControllerFacts.ofClass imports c).AgreesOn (ControllerFacts.ofClass imports' c') := by
  obtain ⟨places, lines, places', lines', hnode⟩ := h.node
  -- the bodies are read off the nodes, and so are equal after they are moved
  have hmoved : c.body.shift places lines = c'.body.shift places' lines' := by
    have hfound := congrArg (Node.child? · .body) hnode
    simpa [hbody, hbody'] using hfound
  have hname : c.node.childText .name = c'.node.childText .name := by
    have hfound := congrArg (Node.childText · .name) hnode
    simpa using hfound
  refine agreesOn_of_unlined hname (basePath_eq h.decorators).symm ?_ ?_
  · have hparameters := congrArg constructorParameters hmoved
    rwa [constructorParameters_shift, constructorParameters_shift] at hparameters
  · have hendpoints := congrArg (fun body => (endpointsOf body).map Endpoint.unlined) hmoved
    rwa [unlined_endpointsOf_shift, unlined_endpointsOf_shift] at hendpoints

/--
The controller of a tree is the first node, in the order of the tree, that declares a class with a
body and carries the mark, itself or by the export that holds it; without any, it is the first that
declares a class. Two trees whose controllers differ in where they stand at most, with decorators
that say the same, agree on all facts but lines and imports, whatever else they hold.
-/
theorem only_selected_counts :
    (∀ root : Node,
      (root.withParents none).map Prod.snd = root.preorder ∧
      (∀ above n, (above, n) ∈ root.withParents none →
        above = none ∧ n = root ∨ ∃ p, above = some p ∧ n ∈ p.children) ∧
      (∀ c, selected? (classes root) = some c ↔
        ∃ parent n, IsSelected (root.withParents none) (parent, n) ∧ c.IsAt parent n) ∧
      (selected? (classes root) = none ↔ ∀ e ∈ root.withParents none, ¬ Declares e)) ∧
    ∀ root root' c c', selected? (classes root) = some c → selected? (classes root') = some c' →
      SameClass c c' → (ControllerFacts.ofTree root).AgreesOn (ControllerFacts.ofTree root') := by
  refine ⟨fun root => ⟨Node.map_snd_withParents none root,
    fun _ _ => Node.parent_of_mem_withParents, fun c => selected?_eq_some_iff,
    selected?_eq_none_iff⟩, fun root root' c c' hselected hselected' hsame => ?_⟩
  obtain ⟨parent, n, -, hat⟩ := selected?_eq_some_iff.1 hselected
  obtain ⟨parent', n', -, hat'⟩ := selected?_eq_some_iff.1 hselected'
  have hbody : c.node.child? .body = some c.body := hat.node ▸ hat.body
  have hbody' : c'.node.child? .body = some c'.body := hat'.node ▸ hat'.body
  unfold ControllerFacts.ofTree
  rw [hselected, hselected']
  exact agreesOn_ofClass _ _ hbody hbody' hsame

/-- The tree of a class with a mark and an endpoint. -/
def markedClass : Node :=
  .mk .classDeclaration .none 0 0 "@Controller class C\x7b@Get l()\x7b\x7d\x7d" [
    .mk .decorator .none 0 0 "@Controller" [.mk .other .none 1 0 "Controller" []],
    .mk .other .name 18 0 "C" [],
    .mk .classBody .body 19 0 "\x7b@Get l()\x7b\x7d\x7d" [
      .mk .decorator .none 20 0 "@Get" [.mk .other .none 21 0 "Get" []],
      .mk .method .none 25 0 "l()\x7b\x7d" [.mk .other .name 25 0 "l" []]]]

/-- The tree of a class without a mark, but with an endpoint. -/
def unmarkedClass : Node :=
  .mk .classDeclaration .none 0 0 "class H\x7b@Post m()\x7b\x7d\x7d" [
    .mk .other .name 6 0 "H" [],
    .mk .classBody .body 7 0 "\x7b@Post m()\x7b\x7d\x7d" [
      .mk .decorator .none 8 0 "@Post" [.mk .other .none 9 0 "Post" []],
      .mk .method .none 14 0 "m()\x7b\x7d" [.mk .other .name 14 0 "m" []]]]

theorem only_selected_counts_markedClass :
    let root : Node := .mk .program .none 0 0 "" [unmarkedClass, markedClass.shift 24 1, unmarkedClass]
    let root' : Node := .mk .program .none 0 0 "" [markedClass]
    ∃ c c', selected? (classes root) = some c ∧ selected? (classes root') = some c' ∧
      SameClass c c' ∧ (ControllerFacts.ofTree root).AgreesOn (ControllerFacts.ofTree root') ∧
      (ControllerFacts.ofTree root).actions = [("l", "GET")] := by
  intro root root'
  obtain ⟨c, hc⟩ : ∃ c, ClassFound.ofNode? (some root) (markedClass.shift 24 1) = some c :=
    ⟨_, rfl⟩
  obtain ⟨c', hc'⟩ : ∃ c, ClassFound.ofNode? (some root') markedClass = some c := ⟨_, rfl⟩
  have hselected : selected? (classes root) = some c := hc ▸ rfl
  have hselected' : selected? (classes root') = some c' := hc' ▸ rfl
  have hsame : SameClass c c' := by
    cases hc
    cases hc'
    exact ⟨⟨0, 0, 24, 1, rfl⟩, .cons ⟨rfl, rfl, rfl⟩ .nil⟩
  exact ⟨c, c', hselected, hselected', hsame,
    only_selected_counts.2 root root' c c' hselected hselected' hsame, by decide +kernel⟩

end RoleAudit
