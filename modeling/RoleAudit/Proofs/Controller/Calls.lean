import RoleAudit.Proofs.Controller.Windows
import RoleAudit.Proofs.Syntax.Commented
import RoleAudit.Resolution.Resolver

/-!
# The calls of a controller

A method calls a service by `this.property.method(…)`, with the property read directly off `this`,
anywhere in its body: in an argument, a function, an object or a class inside it.

- `Node.Within`: a node of a tree, at any depth; `mem_preorder_iff`: these are the nodes in order;
- `IsCallOn`: a node is such a call; `callOf?`: the call that a node is;
- `CalledBefore`: a call is made before another one is made for the first time;
- `ReportsCalls`: the calls of a body, none lost and none twice, in the order in which they are
  first made;
- `calls_found_once`: the calls that are reported for every body, and the methods that a service is
  asked about.
-/

namespace RoleAudit

open Syntax

/-! ## Nodes at any depth -/

namespace Syntax
namespace Node

/-- A node stands in a tree, at any depth. -/
inductive Within (m : Node) : Node → Prop where
  | self : Within m m
  | inside {n c : Node} (hc : c ∈ n.children) (h : Within m c) : Within m n

mutual

/-- A tree in order holds the nodes at any depth. -/
theorem mem_preorder_iff {m : Node} : ∀ {n : Node}, m ∈ n.preorder ↔ m.Within n
  | .mk kind role start line text children => by
    rw [preorder_eq, List.mem_cons, mem_preorderAll_iff]
    constructor
    · rintro (rfl | ⟨c, hc, hm⟩)
      · exact .self
      · exact .inside hc hm
    · intro h
      cases h with
      | self => exact .inl rfl
      | inside hc hm => exact .inr ⟨_, hc, hm⟩

theorem mem_preorderAll_iff {m : Node} :
    ∀ {ns : List Node}, m ∈ preorderAll ns ↔ ∃ c ∈ ns, m.Within c
  | [] => by simp [preorderAll]
  | n :: rest => by
    rw [preorderAll, List.mem_append, mem_preorder_iff, mem_preorderAll_iff]
    simp

end

end Node
end Syntax

/-! ## Calls on a property -/

/-- A node is the call `this.property.method(…)`. -/
structure IsCallOn (property method : String) (call : Node) : Prop where
  kind : call.kind = .call
  path : ∃ function owner holder, call.child? .function = some function ∧
    function.kind = .member ∧ function.childText .property = method ∧
    function.child? .object = some owner ∧
    owner.kind = .member ∧ owner.childText .property = property ∧
    owner.child? .object = some holder ∧ holder.kind = .thisKeyword

theorem serviceCall?_eq_some_iff {call : Node} {property method : String} :
    serviceCall? call = some (property, method) ↔
      ∃ function owner holder, call.child? .function = some function ∧
        function.kind = .member ∧ function.childText .property = method ∧
        function.child? .object = some owner ∧
        owner.kind = .member ∧ owner.childText .property = property ∧
        owner.child? .object = some holder ∧ holder.kind = .thisKeyword := by
  unfold serviceCall?
  -- each part of the call is there and of the wanted kind, or there is no call
  cases hfunction : call.child? .function with
  | none => simp
  | some function =>
      by_cases hmember : function.kind = .member
      · cases howner : function.child? .object with
        | none => simp [hmember, howner]
        | some owner =>
            by_cases hread : owner.kind = .member
            · cases hholder : owner.child? .object with
              | none => simp [hmember, howner, hread, hholder]
              | some holder =>
                  by_cases hthis : holder.kind = .thisKeyword
                  · simp [hmember, howner, hread, hholder, hthis, and_comm]
                  · simp [hmember, howner, hread, hholder, hthis]
            · simp [hmember, howner, hread]
      · simp [hmember]

/-- The call that a node is, made by a caller. -/
def callOf? (caller : String) (n : Node) : Option ServiceCall :=
  if n.kind == .call then
    (serviceCall? n).map fun (property, method) => ⟨caller, property, method⟩
  else none

theorem callOf?_eq_some_iff {caller : String} {n : Node} {call : ServiceCall} :
    callOf? caller n = some call ↔
      call.caller = caller ∧ IsCallOn call.property call.method n := by
  rcases call with ⟨by', property, method⟩
  have hcall : callOf? caller n = some ⟨by', property, method⟩ ↔
      n.kind = .call ∧ by' = caller ∧ serviceCall? n = some (property, method) := by
    unfold callOf?
    by_cases hkind : n.kind = .call
    · simp [hkind, eq_comm, and_comm, and_assoc]
    · simp [hkind]
  rw [hcall, serviceCall?_eq_some_iff]
  constructor
  · rintro ⟨hkind, rfl, hpath⟩
    exact ⟨rfl, hkind, hpath⟩
  · rintro ⟨rfl, hkind, hpath⟩
    exact ⟨hkind, rfl, hpath⟩

/-- The calls of a body are those that its nodes are, each once. -/
theorem callsIn_eq_eachOnce (caller : String) (body : Node) :
    callsIn caller body = eachOnce (body.preorder.filterMap (callOf? caller)) := by
  unfold callsIn
  rw [Node.ofKind, Node.search_eq, List.filterMap_filter]
  rfl

/-! ## The calls of a body -/

/-- Among nodes in order, a call is made at one up to which another call is not made yet. -/
def CalledBefore (nodes : List Node) (a b : ServiceCall) : Prop :=
  ∃ before n after, nodes = before ++ n :: after ∧ IsCallOn a.property a.method n ∧
    ∀ m ∈ before ++ [n], ¬ IsCallOn b.property b.method m

/-- The calls of a body, none lost and none twice, in the order in which they are first made. -/
structure ReportsCalls (caller : String) (body : Node) (calls : List ServiceCall) : Prop where
  complete : ∀ call, call ∈ calls ↔
    call.caller = caller ∧ ∃ n, n.Within body ∧ IsCallOn call.property call.method n
  nodup : calls.Nodup
  ordered : calls.Pairwise (CalledBefore body.preorder)

theorem calledBefore_of_idxOf_lt {caller : String} {nodes : List Node} {a b : ServiceCall}
    (ha : a ∈ nodes.filterMap (callOf? caller)) (hb : b.caller = caller)
    (hlt : (nodes.filterMap (callOf? caller)).idxOf a <
      (nodes.filterMap (callOf? caller)).idxOf b) : CalledBefore nodes a b := by
  obtain ⟨calls, others, hcalls, hnew⟩ := List.eq_append_cons_of_mem ha
  -- `b` stands behind the first `a`, so that none of the calls up to there is `b`
  have hlength : (nodes.filterMap (callOf? caller)).idxOf a = calls.length := by
    rw [hcalls, List.idxOf_append_of_notMem hnew, List.idxOf_cons_self, Nat.add_zero]
  have hbefore : b ∉ calls := by
    intro hmem
    have hshort := List.idxOf_lt_length_of_mem hmem
    have hsame : (calls ++ a :: others).idxOf b = calls.idxOf b := List.idxOf_append_of_mem hmem
    rw [hcalls, hsame] at hlt
    rw [hcalls] at hlength
    omega
  have hne : a ≠ b := by
    rintro rfl
    exact Nat.lt_irrefl _ hlt
  obtain ⟨first, rest, rfl, hfirst, hrest⟩ := List.filterMap_eq_append_iff.1 hcalls
  obtain ⟨skipped, n, after, rfl, hskipped, hn, -⟩ := List.filterMap_eq_cons_iff.1 hrest
  refine ⟨first ++ skipped, n, after, by simp, (callOf?_eq_some_iff.1 hn).2, fun m hm hcall => ?_⟩
  have hfound : callOf? caller m = some b := callOf?_eq_some_iff.2 ⟨hb, hcall⟩
  rcases List.mem_append.1 hm with hm | hm
  · rcases List.mem_append.1 hm with hm | hm
    · exact hbefore (hfirst ▸ List.mem_filterMap.2 ⟨m, hm, hfound⟩)
    · rw [hskipped m hm] at hfound
      cases hfound
  · rw [List.mem_singleton.1 hm, hn] at hfound
    exact hne (Option.some.inj hfound)

theorem reportsCalls_callsIn (caller : String) (body : Node) :
    ReportsCalls caller body (callsIn caller body) := by
  rw [callsIn_eq_eachOnce]
  -- counting each call once loses none of them and keeps the order
  have hmem : ∀ call, call ∈ eachOnce (body.preorder.filterMap (callOf? caller)) ↔
      call.caller = caller ∧ ∃ n, n.Within body ∧ IsCallOn call.property call.method n := by
    intro call
    rw [mem_eachOnce, List.mem_filterMap]
    constructor
    · rintro ⟨n, hn, hcall⟩
      obtain ⟨hcaller, hcall⟩ := callOf?_eq_some_iff.1 hcall
      exact ⟨hcaller, n, Node.mem_preorder_iff.1 hn, hcall⟩
    · rintro ⟨hcaller, n, hn, hcall⟩
      exact ⟨n, Node.mem_preorder_iff.2 hn, callOf?_eq_some_iff.2 ⟨hcaller, hcall⟩⟩
  refine ⟨hmem, nodup_foldl_once _ List.nodup_nil, ?_⟩
  refine (pairwise_foldl_once (body.preorder.filterMap (callOf? caller))).imp_of_mem ?_
  intro a b ha hb hlt
  exact calledBefore_of_idxOf_lt ((mem_eachOnce _ a).1 ha) ((hmem b).1 hb).1 hlt

/-! ## The calls of a class -/

/-- The methods of a class body but the one that makes the object. -/
def endpointMethods (body : Node) : List MethodFound :=
  (methodsOf body).filter fun m => m.name != constructorName

/-- The calls in the body of a method. -/
def MethodFound.calls (m : MethodFound) : List ServiceCall :=
  (m.node.child? .body).elim [] (callsIn m.name)

theorem map_fst_markedMethods (body : Node) :
    (markedMethods body).map Prod.fst = endpointMethods body :=
  map_fst_filter_windows (memberDecorators body) body.start (methodsOf body)

/-- Each endpoint has the name of its method, and the calls in the body of the method. -/
theorem map_calls_endpointsOf (body : Node) :
    ((endpointsOf body).map fun e => (e.name, e.calls)) =
      (endpointMethods body).map fun m => (m.name, m.calls) := by
  rw [← map_fst_markedMethods, endpointsOf, List.map_map, List.map_map]
  refine List.map_congr_left fun ⟨m, window⟩ _ => ?_
  unfold MethodFound.calls
  simp only [Function.comp_apply, Endpoint.ofMethod]
  cases m.node.child? .body <;> rfl

theorem calls_ofClass (imports : List ImportedName) (c : ClassFound) :
    (ControllerFacts.ofClass imports c).calls =
      (endpointMethods c.body).flatMap MethodFound.calls := by
  have hcalls := congrArg (List.flatMap Prod.snd) (map_calls_endpointsOf c.body)
  rwa [List.flatMap_map, List.flatMap_map] at hcalls

theorem mem_endpointMethods {body : Node} {m : MethodFound} :
    m ∈ endpointMethods body ↔
      ∃ n ∈ body.children, n.kind = .method ∧ MethodFound.ofNode? n = some m ∧
        m.name ≠ constructorName := by
  unfold endpointMethods
  rw [List.mem_filter, mem_methodsOf, bne_iff_ne]
  constructor
  · rintro ⟨⟨n, hn, hkind, hm⟩, hname⟩
    exact ⟨n, hn, hkind, hm, hname⟩
  · rintro ⟨n, hn, hkind, hm, hname⟩
    exact ⟨⟨n, hn, hkind, hm⟩, hname⟩

/-- A class calls a method on a property in the body of a method that is not its constructor. -/
def CallsOn (body : Node) (property method : String) : Prop :=
  ∃ n ∈ body.children, n.kind = .method ∧
    (∃ name, n.child? .name = some name ∧ name.text ≠ constructorName) ∧
    ∃ inside, n.child? .body = some inside ∧
      ∃ call, call.Within inside ∧ IsCallOn property method call

theorem mem_callsOn_ofClass {imports : List ImportedName} {c : ClassFound}
    {property method : String} :
    method ∈ ((ControllerFacts.ofClass imports c).callsOn property).map (·.method) ↔
      CallsOn c.body property method := by
  -- a method makes the calls that its body holds, if it has a body
  have hcall : ∀ (m : MethodFound) (call : ServiceCall), call ∈ m.calls ↔ call.caller = m.name ∧
      ∃ inside, m.node.child? .body = some inside ∧
        ∃ n, n.Within inside ∧ IsCallOn call.property call.method n := by
    intro m call
    unfold MethodFound.calls
    cases m.node.child? .body with
    | none => simp
    | some inside => simpa using (reportsCalls_callsIn m.name inside).complete call
  unfold ControllerFacts.callsOn CallsOn
  rw [calls_ofClass, List.mem_map]
  constructor
  · rintro ⟨call, hmem, rfl⟩
    obtain ⟨hmem, hproperty⟩ := List.mem_filter.1 hmem
    obtain ⟨m, hm, hmem⟩ := List.mem_flatMap.1 hmem
    obtain ⟨n, hn, hkind, hfound, hname⟩ := mem_endpointMethods.1 hm
    obtain ⟨name, hnamed, rfl⟩ := Option.map_eq_some_iff.1 hfound
    obtain ⟨-, inside, hinside, hcalled⟩ := (hcall _ call).1 hmem
    exact ⟨n, hn, hkind, ⟨name, hnamed, hname⟩, inside, hinside, eq_of_beq hproperty ▸ hcalled⟩
  · rintro ⟨n, hn, hkind, ⟨name, hnamed, hname⟩, inside, hinside, hcalled⟩
    have hfound : MethodFound.ofNode? n = some ⟨n, name.text, name.start, name.line + 1⟩ := by
      rw [MethodFound.ofNode?, hnamed]
      rfl
    refine ⟨⟨name.text, property, method⟩, List.mem_filter.2 ⟨?_, beq_self_eq_true _⟩, rfl⟩
    refine List.mem_flatMap.2 ⟨_, mem_endpointMethods.2 ⟨n, hn, hkind, hfound, hname⟩, ?_⟩
    exact (hcall _ _).2 ⟨rfl, inside, hinside, hcalled⟩

/-- The methods that a service is asked about are the distinct ones of the chosen property. -/
theorem methods_resolveService (d : Disk) (r : Resolver) (facts : ControllerFacts)
    (controllerPath : Option String) (cache : TextCache) :
    let service := ((resolveService d r facts controllerPath).run cache).1
    (service.methods = (chosenService? facts).elim [] fun (property, _) =>
        Text.sorted (Text.distinct ((facts.callsOn property).map (·.method)))) ∧
      ∀ property name, chosenService? facts = some (property, name) →
        service.property = property := by
  unfold resolveService
  cases hchosen : chosenService? facts with
  | none => exact ⟨rfl, nofun⟩
  | some chosen =>
      refine ⟨rfl, fun property name h => ?_⟩
      cases h
      rfl

/--
For every body of a method, the calls that are reported are the distinct calls
`this.property.method(…)` at any depth of it, in the order in which the nodes of the tree first make
them. The endpoints of a class report the calls of the bodies of its methods. The methods that the
service of a controller is asked about are in strictly ascending order, and they are all that a
method of the class other than the constructor calls on the chosen property, which is the one that
the service has.
-/
theorem calls_found_once (imports : List ImportedName) (c : ClassFound) :
    let facts := ControllerFacts.ofClass imports c
    (∀ caller body, ReportsCalls caller body (callsIn caller body)) ∧
    ((facts.endpoints.map fun e => (e.name, e.calls)) =
      (endpointMethods c.body).map fun m =>
        (m.name, (m.node.child? .body).elim [] (callsIn m.name))) ∧
    ∀ d r controllerPath cache,
      let service := ((resolveService d r facts controllerPath).run cache).1
      service.methods.Pairwise (· < ·) ∧
      (∀ property name, chosenService? facts = some (property, name) →
        service.property = property) ∧
      ∀ method, method ∈ service.methods ↔
        (∃ name, chosenService? facts = some (service.property, name)) ∧
          CallsOn c.body service.property method := by
  intro facts
  refine ⟨reportsCalls_callsIn, map_calls_endpointsOf c.body, fun d r controllerPath cache => ?_⟩
  intro service
  obtain ⟨hmethods, hproperty⟩ := methods_resolveService d r facts controllerPath cache
  change service.methods = _ at hmethods
  rw [hmethods]
  -- without a service nothing is asked about
  cases hchosen : chosenService? facts with
  | none => exact ⟨List.Pairwise.nil, nofun, fun method => by simp⟩
  | some chosen =>
      rcases chosen with ⟨property, name⟩
      have hsame : service.property = property := hproperty property name hchosen
      refine ⟨Text.sorted_pairwise (Text.nodup_distinct _), hchosen ▸ hproperty, fun method => ?_⟩
      rw [Option.elim_some, (Text.sorted_perm _).mem_iff, Text.mem_distinct, hsame,
        mem_callsOn_ofClass]
      simp

/-- The node of `this.property.method(…)`. -/
def callNode (property method : String) (arguments : List Node) : Node :=
  .mk .call .none 0 0 "" [
    .mk .member .function 0 0 "" [
      .mk .member .object 0 0 "" [.mk .thisKeyword .object 0 0 "this" [],
        .mk .other .property 0 0 property []],
      .mk .other .property 0 0 method []],
    .mk .arguments .arguments 0 0 "" arguments]

def methodNode (name : String) (parameters calls : List Node) : Node :=
  .mk .method .none 0 0 "" [.mk .other .name 0 0 name [],
    .mk .other .parameters 0 0 "" parameters, .mk .other .body 0 0 "" calls]

/-- A class whose method has calls in the arguments of a call, two of them to the same method. -/
def callingClass : ClassFound :=
  ⟨.mk .classDeclaration .none 0 0 "" [],
    .mk .classBody .body 0 0 "" [
      methodNode "constructor" [.mk .parameter .none 0 0 "" [.mk .other .pattern 0 0 "a" [],
        .mk .other .type 0 0 ": AService" []]] [callNode "a" "open" []],
      methodNode "l" [] [callNode "a" "z" [callNode "b" "k" [], callNode "a" "b"
        [callNode "a" "z" []]]]], []⟩

theorem calls_found_once_callingClass :
    let facts := ControllerFacts.ofClass [⟨"AService", "./a"⟩] callingClass
    facts.calls = [⟨"l", "a", "z"⟩, ⟨"l", "b", "k"⟩, ⟨"l", "a", "b"⟩] ∧
    chosenService? facts = some ("a", "AService") ∧
    ∀ d r controllerPath cache,
      let service := ((resolveService d r facts controllerPath).run cache).1
      service.methods = ["b", "z"] ∧ service.property = "a" ∧
        CallsOn callingClass.body "a" "b" ∧ CallsOn callingClass.body "a" "z" := by
  intro facts
  have hchosen : chosenService? facts = some ("a", "AService") := by decide +kernel
  have hasked : Text.sorted (Text.distinct ((facts.callsOn "a").map (·.method))) = ["b", "z"] := by
    decide +kernel
  refine ⟨by decide +kernel, hchosen, fun d r controllerPath cache => ?_⟩
  intro service
  obtain ⟨-, hproperty, hcalled⟩ :=
    (calls_found_once [⟨"AService", "./a"⟩] callingClass).2.2 d r controllerPath cache
  have hmethods : service.methods = ["b", "z"] := by
    rw [(methods_resolveService d r facts controllerPath cache).1, hchosen, Option.elim_some]
    exact hasked
  have hsame : service.property = "a" := hproperty "a" "AService" hchosen
  have hcalls : ∀ method ∈ service.methods, CallsOn callingClass.body "a" method :=
    fun method hmem => hsame ▸ ((hcalled method).1 hmem).2
  rw [hmethods] at hcalls
  exact ⟨hmethods, hsame, hcalls "b" (by simp), hcalls "z" (by simp)⟩

end RoleAudit
