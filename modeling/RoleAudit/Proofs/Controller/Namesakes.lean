import RoleAudit.Controller.Extraction
import RoleAudit.Proofs.Assembly

/-!
# Declarations that share a name

The facts of a controller are joined by the names of its methods. A class may declare a name twice:
static and not, or as an accessor that reads and one that writes. Then the first declaration gives
the roles, the action and the policy, and the service is asked about the first call of any of them.

- `Endpoint.Yields`: a permission that one declaration has by its own facts;
- `ControllerFacts.joined`: the first declaration of a name with the calls of all of them;
- `mem_permissions_iff`: the permissions of a controller are those of its joined declarations;
- `permissions_ofClass`: so in a class without namesakes facts are never mixed.
-/

namespace RoleAudit

/-! ## One declaration -/

/-- The method of the service that an endpoint calls first. -/
def Endpoint.firstCall? (e : Endpoint) (property : String) : Option String :=
  (e.calls.find? fun c => c.property == property).map (·.method)

/-- A permission whose role, action, resource and condition are facts of one declaration. -/
structure Endpoint.Yields (e : Endpoint) (completeness : Completeness) (property : String)
    (entities constraints : List (String × String)) (p : Permission) : Prop where
  role : p.role ≠ "" ∧ ∃ written ∈ e.roles, Text.strip written = p.role
  action : p.action ≠ "" ∧ Text.strip e.action = p.action
  resource : p.resource ≠ "" ∧ ∃ called entity, e.firstCall? property = some called ∧
    lookup? entities called = some entity ∧ Text.strip entity = p.resource
  condition : (∃ text, conditionFor constraints e.policy = some text ∧
      Text.strip text = p.condition) ∨
    conditionFor constraints e.policy = none ∧ completeness = .conditionOptional ∧ p.condition = ""

/-- The calls of a declaration carry its name. -/
theorem caller_of_mem_calls {body : Syntax.Node} {e : Endpoint} (he : e ∈ endpointsOf body)
    {call : ServiceCall} (hcall : call ∈ e.calls) : call.caller = e.name := by
  rcases List.mem_map.1 he with ⟨⟨m, window⟩, -, rfl⟩
  unfold Endpoint.ofMethod at hcall ⊢
  dsimp only at hcall ⊢
  cases hbody : m.node.child? .body with
  | none => simp [hbody] at hcall
  | some body =>
      have hfound : call ∈ callsIn m.name body := by simpa [hbody] using hcall
      rcases List.mem_filterMap.1 ((mem_eachOnce _ _).1 hfound) with ⟨node, -, hnode⟩
      rcases Option.map_eq_some_iff.1 hnode with ⟨⟨property, method⟩, -, rfl⟩
      rfl

/-! ## All declarations of a name -/

namespace ControllerFacts

/-- The calls of all declarations of a name, in source order. -/
def callsOf (f : ControllerFacts) (name : String) : List ServiceCall :=
  (f.endpoints.filter fun e => e.name == name).flatMap (·.calls)

/-- A declaration with the calls of all declarations of its name. -/
def joined (f : ControllerFacts) (e : Endpoint) : Endpoint :=
  { e with calls := f.callsOf e.name }

/-- The lists that permissions are made of, with answers about the service and the policies. -/
def methodFacts (f : ControllerFacts) (property : String)
    (entities constraints : List (String × String)) : MethodFacts :=
  ⟨f.roles, f.actions, entityMappings f property entities, constraintMappings f constraints⟩

/-- A declaration without namesakes stays as it is. -/
theorem joined_eq_self {f : ControllerFacts} {e : Endpoint}
    (h : f.endpoints.filter (fun d => d.name == e.name) = [e]) : f.joined e = e := by
  unfold joined callsOf
  rw [h]
  simp

/-- A declaration without namesakes is the first one of its name. -/
theorem find?_of_unique {f : ControllerFacts} {e : Endpoint}
    (h : f.endpoints.filter (fun d => d.name == e.name) = [e]) :
    f.endpoints.find? (fun d => d.name == e.name) = some e := by
  rw [← List.head?_filter, h]
  rfl

/-- Among endpoints with distinct names each one is all that has its name. -/
theorem filter_name_eq_singleton {endpoints : List Endpoint}
    (h : (endpoints.map (·.name)).Nodup) {e : Endpoint} (he : e ∈ endpoints) :
    endpoints.filter (fun d => d.name == e.name) = [e] := by
  induction endpoints with
  | nil => cases he
  | cons d rest ih =>
      have hd : d.name ∉ rest.map (·.name) := (List.nodup_cons.1 h).1
      have hrest : (rest.map (·.name)).Nodup := (List.nodup_cons.1 h).2
      rcases List.mem_cons.1 he with rfl | he
      · -- nothing behind it has its name
        have hnone : rest.filter (fun d => d.name == e.name) = [] := by
          apply List.filter_eq_nil_iff.2
          intro d hmem hname
          exact hd (List.mem_map.2 ⟨d, hmem, by simpa using hname⟩)
        simp [hnone]
      · -- nothing before it has its name
        have hne : d.name ≠ e.name := by
          intro hname
          exact hd (List.mem_map.2 ⟨e, he, hname.symm⟩)
        simpa [hne] using ih hrest he

section Joined

variable {f : ControllerFacts}
  (hcalls : ∀ e ∈ f.endpoints, ∀ call ∈ e.calls, call.caller = e.name)

include hcalls

/-- The calls under a name are those of its declarations. -/
theorem filter_caller_calls (name : String) :
    f.calls.filter (fun call => call.caller == name) = f.callsOf name := by
  unfold calls callsOf
  generalize f.endpoints = endpoints at hcalls ⊢
  induction endpoints with
  | nil => rfl
  | cons e rest ih =>
      have hrest := ih fun d hd => hcalls d (List.mem_cons_of_mem e hd)
      have hcaller : ∀ call ∈ e.calls, call.caller = e.name := hcalls e List.mem_cons_self
      rw [List.flatMap_cons, List.filter_append, hrest, List.filter_cons]
      -- the calls of a declaration are all under its name
      by_cases hname : e.name = name
      · have hall : e.calls.filter (fun call => call.caller == name) = e.calls := by
          apply List.filter_eq_self.2
          intro call hcall
          simp [hcaller call hcall, hname]
        simp [hall, hname]
      · have hnone : e.calls.filter (fun call => call.caller == name) = [] := by
          apply List.filter_eq_nil_iff.2
          intro call hcall
          simp [hcaller call hcall, hname]
        simp [hnone, hname]

/-- The service is asked about the first call of any declaration of a name. -/
theorem lookup_firstCalls (property : String) (e : Endpoint) :
    lookup? (firstCalls (f.callsOn property)) e.name = (f.joined e).firstCall? property := by
  unfold Endpoint.firstCall? joined
  rw [lookup_firstCalls_callsOn, ← filter_caller_calls hcalls, List.find?_filter]
  simp only [Bool.decide_and, Bool.decide_eq_true]

variable {property : String} {entities constraints : List (String × String)}
  {completeness : Completeness} {e : Endpoint}

/-- The permissions of a name are what its first declaration yields with the calls of all. -/
theorem mem_permissionsOf_iff (hfirst : f.endpoints.find? (fun d => d.name == e.name) = some e)
    (p : Permission) :
    p ∈ (f.methodFacts property entities constraints).permissionsOf completeness e.name ↔
      (f.joined e).Yields completeness property entities constraints p := by
  -- each list has an entry for every declaration, and a lookup finds the first one
  have hmember : e.name ∈ f.methods := List.mem_map.2 ⟨e, List.mem_of_find?_eq_some hfirst, rfl⟩
  have hroles : lookup? (f.methodFacts property entities constraints).roles e.name =
      some e.roles := by
    unfold lookup? methodFacts roles
    rw [lookup_map, hfirst, Option.map_some]
  have haction : (f.methodFacts property entities constraints).actionOf e.name =
      Text.strip e.action := by
    unfold MethodFacts.actionOf methodFacts lookup? actions
    rw [lookup_map, hfirst, Option.map_some, Option.getD_some]
  have hresource : lookup? (f.methodFacts property entities constraints).resources e.name =
      ((f.joined e).firstCall? property).bind (lookup? entities) := by
    have hasked := lookup_firstCalls hcalls property e
    unfold lookup? methodFacts at *
    dsimp only
    rw [lookup_entityMappings, if_pos hmember, lookup?, hasked]
    rfl
  have hcondition :
      (lookup? (f.methodFacts property entities constraints).conditions e.name).join =
        conditionFor constraints e.policy := by
    unfold lookup? methodFacts
    dsimp only
    rw [lookup_constraintMappings, hfirst, Option.map_some, Option.join_some]
  rw [MethodFacts.mem_permissionsOf_iff_fields, MethodFacts.mem_rolesOf_iff,
    MethodFacts.resourceOf_ne_empty_iff, MethodFacts.conditionOf?_eq_some_iff,
    hroles, haction, hresource, hcondition]
  constructor
  · rintro ⟨hrole, haction, ⟨hgiven, entity, hentity, hresource⟩, hcondition⟩
    rcases Option.bind_eq_some_iff.1 hentity with ⟨called, hcalled, hanswer⟩
    exact ⟨hrole, haction, ⟨hgiven, called, entity, hcalled, hanswer, hresource⟩, hcondition⟩
  · rintro ⟨hrole, haction, ⟨hgiven, called, entity, hcalled, hanswer, hresource⟩, hcondition⟩
    have hentity := Option.bind_eq_some_iff.2 ⟨called, hcalled, hanswer⟩
    exact ⟨hrole, haction, ⟨hgiven, entity, hentity, hresource⟩, hcondition⟩

/-- The permissions of a controller are what the first declarations of its names yield. -/
theorem mem_permissions_iff (p : Permission) :
    p ∈ (f.methodFacts property entities constraints).permissions completeness ↔
      ∃ e, f.endpoints.find? (fun d => d.name == e.name) = some e ∧
        (f.joined e).Yields completeness property entities constraints p := by
  have hmethods : (f.methodFacts property entities constraints).methods = keysOf f.methods :=
    methods_of_declared rfl rfl (fun n => mem_methods_of_mem_entityMappings) rfl
  unfold MethodFacts.permissions
  rw [hmethods, List.mem_flatMap]
  constructor
  · rintro ⟨n, hn, hp⟩
    rcases List.mem_map.1 ((mem_keysOf _ _).1 hn) with ⟨d, hd, rfl⟩
    -- the permissions of a name belong to its first declaration
    cases hfirst : f.endpoints.find? (fun e => e.name == d.name) with
    | none => exact absurd (List.find?_eq_none.1 hfirst d hd) (by simp)
    | some e =>
        have hname : e.name = d.name := by simpa using List.find?_some hfirst
        rw [← hname] at hfirst hp
        exact ⟨e, hfirst, (mem_permissionsOf_iff hcalls hfirst p).1 hp⟩
  · rintro ⟨e, hfirst, hyields⟩
    refine ⟨e.name, (mem_keysOf _ _).2 ?_, (mem_permissionsOf_iff hcalls hfirst p).2 hyields⟩
    exact List.mem_map.2 ⟨e, List.mem_of_find?_eq_some hfirst, rfl⟩

/-- A declaration without namesakes yields permissions by its own facts, and no other ones. -/
theorem yields_iff_of_unique (hunique : f.endpoints.filter (fun d => d.name == e.name) = [e])
    (p : Permission) :
    p ∈ (f.methodFacts property entities constraints).permissionsOf completeness e.name ↔
      e.Yields completeness property entities constraints p := by
  rw [mem_permissionsOf_iff hcalls (find?_of_unique hunique), joined_eq_self hunique]

end Joined

end ControllerFacts

/--
Every permission of a class takes its role, its action and its condition from the first declaration
of a name, and its resource from the first call on the service of any declaration of that name. A
declaration without namesakes has the permissions of its own facts and no other ones.
-/
theorem permissions_ofClass (imports : List ImportedName) (c : ClassFound) (property : String)
    (entities constraints : List (String × String)) (completeness : Completeness)
    (p : Permission) :
    let facts := ControllerFacts.ofClass imports c
    let parts := facts.methodFacts property entities constraints
    (p ∈ parts.permissions completeness ↔
        ∃ e, facts.endpoints.find? (fun d => d.name == e.name) = some e ∧
          (facts.joined e).Yields completeness property entities constraints p) ∧
      (∀ e, facts.endpoints.filter (fun d => d.name == e.name) = [e] →
        (p ∈ parts.permissionsOf completeness e.name ↔
          e.Yields completeness property entities constraints p)) ∧
      (facts.methods.Nodup →
        (p ∈ parts.permissions completeness ↔
          ∃ e ∈ facts.endpoints, e.Yields completeness property entities constraints p)) := by
  intro facts parts
  have hcalls : ∀ e ∈ facts.endpoints, ∀ call ∈ e.calls, call.caller = e.name :=
    fun e he call hcall => caller_of_mem_calls he hcall
  refine ⟨facts.mem_permissions_iff hcalls p, ?_, ?_⟩
  · intro e hunique
    exact facts.yields_iff_of_unique hcalls hunique p
  · -- with distinct names every declaration is the first one and has all calls of its name
    intro hdistinct
    rw [facts.mem_permissions_iff hcalls p]
    constructor
    · rintro ⟨e, hfirst, hyields⟩
      have he : e ∈ facts.endpoints := List.mem_of_find?_eq_some hfirst
      have hjoined : facts.joined e = e :=
        ControllerFacts.joined_eq_self (ControllerFacts.filter_name_eq_singleton hdistinct he)
      exact ⟨e, he, hjoined ▸ hyields⟩
    · rintro ⟨e, he, hyields⟩
      have hunique := ControllerFacts.filter_name_eq_singleton hdistinct he
      refine ⟨e, ControllerFacts.find?_of_unique hunique, ?_⟩
      rwa [ControllerFacts.joined_eq_self hunique]

/-- A class with a static method and a method of one name, and a method of another name. -/
def twiceSource : String :=
  "@Controller('x')class A\x7b@Get()@Roles('R')static l()\x7b\x7d@Post()@Roles('S')l()\x7bthis.s.d()\x7d" ++
    "@Put()@Roles('T')m()\x7bthis.s.d()\x7d\x7d"

/-- The declarations of this class. -/
def twiceEndpoints : List Endpoint :=
  [⟨"l", 1, "GET", ["R"], "", some "", []⟩,
    ⟨"l", 1, "POST", ["S"], "", some "", [⟨"l", "s", "d"⟩]⟩,
    ⟨"m", 1, "PUT", ["T"], "", some "", [⟨"m", "s", "d"⟩]⟩]

theorem permissions_ofClass_twiceSource :
    ∃ c, selected? (classes (Syntax.Node.ofSource twiceSource)) = some c ∧
      let facts := ControllerFacts.ofClass [] c
      let parts := facts.methodFacts "s" [("d", "E")] []
      (∃ p ∈ parts.permissions .allFacts,
        ∀ e ∈ facts.endpoints, ¬ e.Yields .allFacts "s" [("d", "E")] [] p) ∧
      ⟨"T", "PUT", "E", ""⟩ ∈ parts.permissionsOf .allFacts "m" := by
  have hfound : (selected? (classes (Syntax.Node.ofSource twiceSource))).map
      (fun c => endpointsOf c.body) = some twiceEndpoints := by
    decide +kernel
  rcases Option.map_eq_some_iff.1 hfound with ⟨c, hclass, hbody⟩
  have hendpoints : (ControllerFacts.ofClass [] c).endpoints = twiceEndpoints := hbody
  -- no declaration has both the role and a call, so that none yields the permission by itself
  have hlacking : ∀ e ∈ twiceEndpoints, e.calls = [] ∨ e.roles = ["S"] ∨ e.roles = ["T"] := by
    decide
  refine ⟨c, hclass, ⟨⟨"R", "GET", "E", ""⟩, ?_, ?_⟩, ?_⟩
  · -- the service is called by the second declaration only
    have hjoined : (ControllerFacts.ofClass [] c).joined ⟨"l", 1, "GET", ["R"], "", some "", []⟩ =
        ⟨"l", 1, "GET", ["R"], "", some "", [⟨"l", "s", "d"⟩]⟩ := by
      unfold ControllerFacts.joined ControllerFacts.callsOf
      rw [hendpoints]
      rfl
    refine (permissions_ofClass [] c "s" [("d", "E")] [] .allFacts _).1.2
      ⟨⟨"l", 1, "GET", ["R"], "", some "", []⟩, by rw [hendpoints]; rfl, ?_⟩
    rw [hjoined]
    exact ⟨⟨by decide, "R", by decide, by decide⟩, ⟨by decide, by decide⟩,
      ⟨by decide, "d", "E", by decide, by decide, by decide⟩, Or.inl ⟨"", by decide, by decide⟩⟩
  · intro e he
    rw [hendpoints] at he
    rintro ⟨⟨-, hrole⟩, -, ⟨-, called, -, hcalled, -⟩, -⟩
    rcases hlacking e he with hcalls | hroles | hroles
    · simp [Endpoint.firstCall?, hcalls] at hcalled
    · rw [hroles] at hrole
      exact absurd hrole (by decide)
    · rw [hroles] at hrole
      exact absurd hrole (by decide)
  · refine ((permissions_ofClass [] c "s" [("d", "E")] [] .allFacts _).2.1
      ⟨"m", 1, "PUT", ["T"], "", some "", [⟨"m", "s", "d"⟩]⟩ ?_).2 ?_
    · rw [hendpoints]
      rfl
    · exact ⟨⟨by decide, "T", by decide, by decide⟩, ⟨by decide, by decide⟩,
        ⟨by decide, "d", "E", by decide, by decide, by decide⟩, Or.inl ⟨"", by decide, by decide⟩⟩

end RoleAudit
