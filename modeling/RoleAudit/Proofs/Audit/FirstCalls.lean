import RoleAudit.Proofs.Audit.Degradation
import RoleAudit.Proofs.Controller.Calls
import RoleAudit.Proofs.First

/-!
# Entities through first calls

A method of a controller has the entity of the method that it calls first on the service.

- `AnswersFirst`: an entity is the answer for the first call under a name on a property;
- `ResolvesFirst`: the methods that have such an entity, in their order, each with it;
- `callSites`: the nodes in the bodies of methods; `find?_flatMap_calls`: among them stands what is
  called first;
- `entities_of_first_calls`: where the entities of a controller come from, and what none comes from.
-/

namespace RoleAudit

open Syntax

/-! ## Calls and answers -/

/-- A call is made under a name, on a property. -/
def ServiceCall.IsUnder (name property : String) (call : ServiceCall) : Prop :=
  call.caller = name ∧ call.property = property

/-- An entity is the answer for the first call under a name on a property. -/
def AnswersFirst (calls : List ServiceCall) (property : String)
    (entities : List (String × String)) (name entity : String) : Prop :=
  ∃ call, FirstOf (ServiceCall.IsUnder name property) call calls ∧
    lookup? entities call.method = some entity

/-- Methods have the answers for their first calls on a property, and stand in their order. -/
structure ResolvesFirst (methods : List String) (calls : List ServiceCall) (property : String)
    (entities mappings : List (String × String)) : Prop where
  mem_iff : ∀ name entity, (name, entity) ∈ mappings ↔
    name ∈ methods ∧ AnswersFirst calls property entities name entity
  ordered : mappings.map Prod.fst = methods.filter fun name => mappings.any fun p => p.1 == name

theorem firstOf_isUnder_iff {name property : String} {call : ServiceCall}
    {calls : List ServiceCall} :
    FirstOf (ServiceCall.IsUnder name property) call calls ↔
      calls.find? (fun c => c.caller == name && c.property == property) = some call := by
  rw [← firstOf_iff_find?]
  simp only [Bool.and_eq_true, beq_iff_eq]
  rfl

theorem bind_lookup_firstCalls_eq_some_iff {facts : ControllerFacts} {property : String}
    {entities : List (String × String)} {name entity : String} :
    (lookup? (firstCalls (facts.callsOn property)) name).bind (lookup? entities) = some entity ↔
      AnswersFirst facts.calls property entities name entity := by
  unfold AnswersFirst
  rw [lookup_firstCalls_callsOn, Option.bind_map, Option.bind_eq_some_iff]
  simp only [firstOf_isUnder_iff, Function.comp_apply]

/-- Names with the values that a function has for them stand in the order of the names. -/
theorem map_fst_filterMap_self {α : Type} (value : String → Option α) (names : List String) :
    (names.filterMap fun n => (value n).map fun v => (n, v)).map Prod.fst =
      names.filter fun n => (value n).isSome := by
  rw [List.map_filterMap, ← List.filterMap_eq_filter]
  congr 1
  funext n
  cases hvalue : value n <;> simp [Option.guard, hvalue]

theorem resolvesFirst_entityMappings (facts : ControllerFacts) (property : String)
    (entities : List (String × String)) :
    ResolvesFirst facts.methods facts.calls property entities
      (entityMappings facts property entities) := by
  have hmem : ∀ name entity, (name, entity) ∈ entityMappings facts property entities ↔
      name ∈ facts.methods ∧ AnswersFirst facts.calls property entities name entity := by
    intro name entity
    rw [entityMappings_eq, List.mem_filterMap, ← bind_lookup_firstCalls_eq_some_iff]
    constructor
    · rintro ⟨m, hm, hentity⟩
      obtain ⟨value, hvalue, hpair⟩ := Option.map_eq_some_iff.1 hentity
      cases hpair
      exact ⟨hm, hvalue⟩
    · rintro ⟨hm, hvalue⟩
      exact ⟨name, hm, by rw [hvalue, Option.map_some]⟩
  refine ⟨hmem, ?_⟩
  have hnames := map_fst_filterMap_self
    (fun m => (lookup? (firstCalls (facts.callsOn property)) m).bind (lookup? entities))
    facts.methods
  rw [← entityMappings_eq] at hnames
  rw [hnames]
  -- a method is kept if it is answered, which is to say if some entry has its name
  refine List.filter_congr fun name hname => ?_
  rw [Bool.eq_iff_iff, Option.isSome_iff_exists, List.any_eq_true]
  constructor
  · rintro ⟨entity, hentity⟩
    have hanswer := bind_lookup_firstCalls_eq_some_iff.1 hentity
    exact ⟨(name, entity), (hmem name entity).2 ⟨hname, hanswer⟩, beq_self_eq_true name⟩
  · rintro ⟨⟨other, entity⟩, hentity, hsame⟩
    have hname : other = name := eq_of_beq hsame
    rw [hname] at hentity
    exact ⟨entity, bind_lookup_firstCalls_eq_some_iff.2 ((hmem name entity).1 hentity).2⟩

/-- The entities of methods depend on their first calls on the property only. -/
theorem entityMappings_congr {facts facts' : ControllerFacts} {property : String}
    (hmethods : facts.methods = facts'.methods)
    (hfirst : ∀ name ∈ facts.methods, ∀ call,
      FirstOf (ServiceCall.IsUnder name property) call facts.calls ↔
        FirstOf (ServiceCall.IsUnder name property) call facts'.calls)
    (entities : List (String × String)) :
    entityMappings facts property entities = entityMappings facts' property entities := by
  rw [entityMappings_eq, entityMappings_eq, ← hmethods]
  refine List.filterMap_congr fun name hname => ?_
  have hfound : facts.calls.find? (fun c => c.caller == name && c.property == property) =
      facts'.calls.find? fun c => c.caller == name && c.property == property := by
    ext call
    rw [← firstOf_isUnder_iff, ← firstOf_isUnder_iff]
    exact hfirst name hname call
  rw [lookup_firstCalls_callsOn, lookup_firstCalls_callsOn, hfound]

/-! ## Calls in a source -/

/-- The nodes in the bodies of methods in order, each with the name of the method. -/
def callSites (methods : List MethodFound) : List (String × Node) :=
  methods.flatMap fun m => (m.node.child? .body).elim [] fun body =>
    body.preorder.map fun n => (m.name, n)

/-- What is called first in methods is called at the first such node of their bodies. -/
theorem find?_flatMap_calls (methods : List MethodFound) (p : ServiceCall → Bool) :
    (methods.flatMap MethodFound.calls).find? p =
      ((callSites methods).filterMap fun site => callOf? site.1 site.2).find? p := by
  unfold callSites
  rw [List.filterMap_flatMap, List.find?_flatMap, List.find?_flatMap]
  congr 1
  funext m
  unfold MethodFound.calls
  cases m.node.child? .body with
  | none => rfl
  | some body =>
      -- what is taken once stands where it appears first, so that a search meets the same call
      rw [Option.elim_some, Option.elim_some, List.filterMap_map, callsIn_eq_eachOnce, eachOnce,
        find?_foldl_once]
      rfl

/-- A node in the body of a method under a name is a call on a property. -/
def CallsAt (name property : String) (site : String × Node) : Prop :=
  site.1 = name ∧ ∃ method, IsCallOn property method site.2

/-- An entity is the answer for the method that is called at the first such node. -/
def AnswersFirstSite (sites : List (String × Node)) (property : String)
    (entities : List (String × String)) (name entity : String) : Prop :=
  ∃ n method, FirstOf (CallsAt name property) (name, n) sites ∧ IsCallOn property method n ∧
    lookup? entities method = some entity

theorem answersFirst_iff_site {methods : List MethodFound} {property : String}
    {entities : List (String × String)} {name entity : String} :
    AnswersFirst (methods.flatMap MethodFound.calls) property entities name entity ↔
      AnswersFirstSite (callSites methods) property entities name entity := by
  have hkind : CallsAt name property = fun site : String × Node =>
      ∃ call, callOf? site.1 site.2 = some call ∧ call.IsUnder name property := by
    funext ⟨caller, n⟩
    refine propext ⟨?_, ?_⟩
    · rintro ⟨rfl, method, hcall⟩
      exact ⟨⟨caller, property, method⟩, callOf?_eq_some_iff.2 ⟨rfl, hcall⟩, rfl, rfl⟩
    · rintro ⟨⟨caller', on, method⟩, hcall, rfl, rfl⟩
      obtain ⟨rfl, hcall⟩ := callOf?_eq_some_iff.1 hcall
      exact ⟨rfl, method, hcall⟩
  -- the first call that is read comes from the first site that makes one
  have hfirst : ∀ call,
      FirstOf (ServiceCall.IsUnder name property) call (methods.flatMap MethodFound.calls) ↔
        ∃ site, FirstOf (CallsAt name property) site (callSites methods) ∧
          callOf? site.1 site.2 = some call := by
    intro call
    rw [firstOf_isUnder_iff, find?_flatMap_calls, ← firstOf_isUnder_iff, firstOf_filterMap_iff,
      hkind]
  unfold AnswersFirst AnswersFirstSite
  constructor
  · rintro ⟨call, hcall, hentity⟩
    obtain ⟨⟨caller, n⟩, hsite, hread⟩ := (hfirst call).1 hcall
    obtain ⟨rfl, rfl⟩ := hcall.holds
    obtain ⟨hcaller, hread⟩ := callOf?_eq_some_iff.1 hread
    cases hcaller
    exact ⟨n, call.method, hsite, hread, hentity⟩
  · rintro ⟨n, method, hsite, hcall, hentity⟩
    exact ⟨⟨name, property, method⟩,
      (hfirst _).2 ⟨(name, n), hsite, callOf?_eq_some_iff.2 ⟨rfl, hcall⟩⟩, hentity⟩

/-- The methods of the controller of a tree as they stand, but for its constructor. -/
def controllerMethods (root : Node) : List MethodFound :=
  (selected? (classes root)).elim [] fun c =>
    (foundIn c.body.children).filter fun m => m.name != constructorName

theorem constructorName_notMem_controllerMethods (root : Node) :
    constructorName ∉ (controllerMethods root).map (·.name) := by
  unfold controllerMethods
  cases selected? (classes root) with
  | none => exact List.not_mem_nil
  | some c =>
      intro hmem
      obtain ⟨m, hm, hname⟩ := List.mem_map.1 hmem
      simpa [hname] using (List.mem_filter.1 hm).2

/-- The facts of a source name the methods of its controller, with the calls in their bodies. -/
theorem ofSource_controllerMethods (source : String) :
    (ControllerFacts.ofSource source).methods =
        (controllerMethods (Node.ofSource source)).map (·.name) ∧
      (ControllerFacts.ofSource source).calls =
        (controllerMethods (Node.ofSource source)).flatMap MethodFound.calls := by
  unfold ControllerFacts.ofSource ControllerFacts.ofTree controllerMethods
  cases hselected : selected? (classes (Node.ofSource source)) with
  | none => exact ⟨rfl, rfl⟩
  | some c =>
      have hmethods : (foundIn c.body.children).filter (fun m => m.name != constructorName) =
          endpointMethods c.body := by
        unfold endpointMethods
        rw [methodsOf_eq (inOrder_of_mem_classes (mem_of_selected?_eq_some hselected))]
      rw [Option.elim_some, hmethods]
      refine ⟨?_, calls_ofClass _ c⟩
      have hnames := congrArg (List.map Prod.fst) (map_calls_endpointsOf c.body)
      rwa [List.map_map, List.map_map] at hnames

/--
Under the strategy of entities the resources of a controller are joined from the answers about its
service. A method has an entity if and only if it is one of the controller, calls something on the
property, and there is an answer for what it calls first in the order of calls; then it has that
answer, and the methods stand in their order. So calls that come later or are on other properties
change nothing. In a source the first call is the first node, in the order of the tree, in the
bodies of the methods of that name, and the constructor is none of them.
-/
theorem entities_of_first_calls :
    (∀ facts property entities,
      ResolvesFirst facts.methods facts.calls property entities
        (entityMappings facts property entities)) ∧
    (∀ (facts facts' : ControllerFacts) property entities, facts.methods = facts'.methods →
      (∀ name ∈ facts.methods, ∀ call,
        FirstOf (ServiceCall.IsUnder name property) call facts.calls ↔
          FirstOf (ServiceCall.IsUnder name property) call facts'.calls) →
      entityMappings facts property entities = entityMappings facts' property entities) ∧
    (∀ source property entities,
      let facts := ControllerFacts.ofSource source
      let methods := controllerMethods (Node.ofSource source)
      facts.methods = methods.map (·.name) ∧ constructorName ∉ facts.methods ∧
      ∀ name entity, (name, entity) ∈ entityMappings facts property entities ↔
        name ∈ facts.methods ∧
          AnswersFirstSite (callSites methods) property entities name entity) ∧
    ∀ (a : Audit) d r label path facts cache, a.usesBasePath = false →
      let service := ((resolveService d r facts (some path)).run cache).1
      (foundResources a d r label path facts cache).1.2.value =
        entityMappings facts service.property (entityAnswers a service) := by
  refine ⟨resolvesFirst_entityMappings, fun _ _ _ entities hmethods hfirst =>
    entityMappings_congr hmethods hfirst entities, fun source property entities => ?_,
    fun a d r label path facts cache hentities => ?_⟩
  · intro facts methods
    obtain ⟨hmethods, hcalls⟩ := ofSource_controllerMethods source
    refine ⟨hmethods, hmethods ▸ constructorName_notMem_controllerMethods _, fun name entity => ?_⟩
    rw [(resolvesFirst_entityMappings facts property entities).mem_iff, ← answersFirst_iff_site]
    rw [← hcalls]
  · intro service
    have hvalue := value_foundResources a d r label path facts cache
    dsimp only at hvalue
    rwa [if_neg (by simp [hentities])] at hvalue

/-- A controller that calls services in its constructor and in its methods. -/
def callingSource : String :=
  "class C\x7bconstructor()\x7bthis.b.f()\x7dl()\x7bthis.a.g();this.b.h();this.b.f()\x7d" ++
    "m()\x7bthis.a.g()\x7d\x7d"

/-- The facts of a controller of which one method calls one service. -/
def onceCalling : ControllerFacts :=
  ⟨"C", "", [⟨"l", 1, "", [], "", none, [⟨"l", "b", "h"⟩]⟩, ⟨"m", 1, "", [], "", none, []⟩], [], []⟩

theorem entities_of_first_calls_callingSource :
    let facts := ControllerFacts.ofSource callingSource
    let entities := [("f", "F"), ("g", "G"), ("h", "H")]
    facts.methods = onceCalling.methods ∧
    (∀ name ∈ facts.methods, ∀ call,
      FirstOf (ServiceCall.IsUnder name "b") call facts.calls ↔
        FirstOf (ServiceCall.IsUnder name "b") call onceCalling.calls) ∧
    entityMappings facts "b" entities = entityMappings onceCalling "b" entities ∧
    entityMappings facts "b" entities = [("l", "H")] ∧
    { plainAudit with usesBasePath := false }.usesBasePath = false ∧
    ∀ d r label path cache,
      let a : Audit := { plainAudit with usesBasePath := false }
      let service := ((resolveService d r facts (some path)).run cache).1
      (foundResources a d r label path facts cache).1.2.value =
        entityMappings facts service.property (entityAnswers a service) := by
  intro facts entities
  have hfacts : facts = ⟨"C", "", [⟨"l", 1, "", [], "", none,
      [⟨"l", "a", "g"⟩, ⟨"l", "b", "h"⟩, ⟨"l", "b", "f"⟩]⟩,
      ⟨"m", 1, "", [], "", none, [⟨"m", "a", "g"⟩]⟩], [], []⟩ := by
    decide +kernel
  have hmethods : facts.methods = onceCalling.methods := by
    rw [hfacts]
    rfl
  have hfirst : ∀ name ∈ facts.methods, ∀ call,
      FirstOf (ServiceCall.IsUnder name "b") call facts.calls ↔
        FirstOf (ServiceCall.IsUnder name "b") call onceCalling.calls := by
    intro name hname call
    rw [firstOf_isUnder_iff, firstOf_isUnder_iff, hfacts]
    rw [hmethods] at hname
    rcases List.mem_pair.1 hname with rfl | rfl <;> rfl
  refine ⟨hmethods, hfirst, entities_of_first_calls.2.1 _ _ _ _ hmethods hfirst, ?_, rfl,
    fun d r label path cache => entities_of_first_calls.2.2.2 _ d r label path facts cache rfl⟩
  rw [hfacts]
  rfl

end RoleAudit
