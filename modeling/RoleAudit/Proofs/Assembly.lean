import RoleAudit.Assembly
import RoleAudit.Controller.Extraction
import RoleAudit.Proofs.Text.Distinct

/-!
# Named values and the permissions of a method

- `lookup_map`, `lookup_map_snd`, `lookup_filterMap_self`: the first value of a name in a list that is
  made item by item, value by value, or name by name;
- `lookup_constraintMappings`: the condition of a method through the policy of its first endpoint;
- `lookup_firstCalls_callsOn`, `entityMappings_eq`, `lookup_entityMappings`: the entity of a method
  through the first call under its name;
- `mem_permissionsOf`: which permissions a method has;
- `exists_unconditional_iff`: when one of them has no condition;
- `MethodFacts.PartOf`: facts of which some are left out, with `permissions_sublist`: they give a part
  of the permissions, and no other ones.
-/

namespace RoleAudit

/-- Taking each item once keeps all of them. -/
theorem mem_eachOnce {α : Type} [BEq α] [LawfulBEq α] (items : List α) (a : α) :
    a ∈ eachOnce items ↔ a ∈ items := by
  unfold eachOnce
  rw [mem_foldl_once]
  simp

@[simp]
theorem Text.strip_empty : Text.strip "" = "" := by
  decide

theorem mem_keysOf (names : List String) (n : String) : n ∈ keysOf names ↔ n ∈ names :=
  Text.mem_distinct names n

/-- Names that were there before add no method. -/
theorem keysOf_append_of_subset {names others : List String} (h : ∀ n ∈ others, n ∈ names) :
    keysOf (names ++ others) = keysOf names := by
  have hsplit : keysOf (names ++ others) =
      others.foldl (fun done s => if done.contains s then done else done ++ [s]) (keysOf names) :=
    List.foldl_append ..
  rw [hsplit]
  exact foldl_once_of_subset fun n hn => (mem_keysOf names n).2 (h n hn)

theorem mem_of_lookup {κ α : Type} [BEq κ] [LawfulBEq κ] {table : List (κ × α)} {key : κ} {value : α}
    (h : table.lookup key = some value) : (key, value) ∈ table := by
  rcases List.lookup_eq_some_iff.1 h with ⟨before, after, hentries, -⟩
  rw [hentries]
  exact List.mem_append_right before List.mem_cons_self

/-- The first value of a name comes from the first item with that name. -/
theorem lookup_map {α β : Type} (name : α → String) (value : α → β) (items : List α) (n : String) :
    (items.map fun a => (name a, value a)).lookup n =
      (items.find? fun a => name a == n).map value := by
  induction items with
  | nil => rfl
  | cons a rest ih =>
      rw [List.map_cons, List.lookup_cons, List.find?_cons, BEq.comm, ih]
      cases name a == n <;> rfl

theorem lookup_map_snd {α β : Type} (value : α → β) (entries : List (String × α)) (name : String) :
    (entries.map fun (n, a) => (n, value a)).lookup name = (entries.lookup name).map value := by
  induction entries with
  | nil => rfl
  | cons entry rest ih =>
      rcases entry with ⟨n, a⟩
      rw [List.map_cons, List.lookup_cons, List.lookup_cons, ih]
      cases name == n <;> rfl

/-- A name that gets its value by a function has that value wherever it stands. -/
theorem lookup_filterMap_self {α : Type} (value : String → Option α) (names : List String)
    (n : String) :
    (names.filterMap fun m => (value m).map fun v => (m, v)).lookup n =
      if n ∈ names then value n else none := by
  induction names with
  | nil => rfl
  | cons m rest ih =>
      rw [List.filterMap_cons]
      by_cases hm : n = m
      · subst hm
        -- without a value it has none further on either
        cases hv : value n with
        | none => simp [hv, ih]
        | some v => simp
      · have hne : (n == m) = false := beq_false_of_ne hm
        cases value m with
        | none => simp [hm, ih]
        | some v => simp [List.lookup_cons, hne, hm, ih]

/-- The first call on a property under a name is found among all calls. -/
theorem lookup_firstCalls_callsOn (facts : ControllerFacts) (property name : String) :
    lookup? (firstCalls (facts.callsOn property)) name =
      (facts.calls.find? fun c => c.caller == name && c.property == property).map (·.method) := by
  unfold lookup? firstCalls ControllerFacts.callsOn
  rw [lookup_map, List.find?_filter]
  congr 2
  funext c
  rw [Bool.decide_and, Bool.decide_eq_true, Bool.decide_eq_true, Bool.and_comm]

/-- Each method has the entity of the first call under its name, if it is answered. -/
theorem entityMappings_eq (facts : ControllerFacts) (property : String)
    (entities : List (String × String)) :
    entityMappings facts property entities = facts.methods.filterMap fun m =>
      ((lookup? (firstCalls (facts.callsOn property)) m).bind (lookup? entities)).map
        fun entity => (m, entity) := by
  unfold entityMappings joinThrough
  rw [List.filterMap_filterMap]
  apply congrArg fun value => facts.methods.filterMap value
  funext m
  cases lookup? (firstCalls (facts.callsOn property)) m <;> rfl

theorem lookup_entityMappings (facts : ControllerFacts) (property : String)
    (entities : List (String × String)) (n : String) :
    (entityMappings facts property entities).lookup n =
      if n ∈ facts.methods then
        (lookup? (firstCalls (facts.callsOn property)) n).bind (lookup? entities)
      else none := by
  rw [entityMappings_eq, lookup_filterMap_self]

/-- Only the methods of a controller have an entity. -/
theorem mem_methods_of_mem_entityMappings {facts : ControllerFacts} {property : String}
    {entities : List (String × String)} {n : String}
    (h : n ∈ (entityMappings facts property entities).map (·.1)) : n ∈ facts.methods := by
  rw [entityMappings_eq] at h
  rcases List.mem_map.1 h with ⟨⟨m, v⟩, hentry, rfl⟩
  rcases List.mem_filterMap.1 hentry with ⟨method, hmethod, hanswer⟩
  rcases Option.map_eq_some_iff.1 hanswer with ⟨entity, -, heq⟩
  cases heq
  exact hmethod

/-- The condition of a method is that for the policy of the first endpoint with its name. -/
theorem lookup_constraintMappings (facts : ControllerFacts) (constraints : List (String × String))
    (n : String) :
    (constraintMappings facts constraints).lookup n =
      (facts.endpoints.find? fun e => e.name == n).map
        fun e => conditionFor constraints e.policy := by
  have hmappings : constraintMappings facts constraints =
      facts.endpoints.map fun e => (e.name, conditionFor constraints e.policy) := by
    unfold constraintMappings ControllerFacts.policies
    rw [List.map_map]
    rfl
  rw [hmappings, lookup_map]

/-- Whatever is found out about the methods of a controller, they are the ones that it declares. -/
theorem methods_of_declared {facts : ControllerFacts} {parts : MethodFacts}
    {constraints : List (String × String)} (hroles : parts.roles = facts.roles)
    (hactions : parts.actions = facts.actions)
    (hresources : ∀ n ∈ parts.resources.map (·.1), n ∈ facts.methods)
    (hconditions : parts.conditions = constraintMappings facts constraints) :
    parts.methods = keysOf facts.methods := by
  have hroleNames : facts.roles.map (·.1) = facts.methods := List.map_map
  have hactionNames : facts.actions.map (·.1) = facts.methods := List.map_map
  have hconditionNames : ∀ n ∈ (constraintMappings facts constraints).map (·.1),
      n ∈ facts.methods := by
    intro n hn
    rcases List.mem_map.1 hn with ⟨entry, hentry, rfl⟩
    rcases List.mem_map.1 hentry with ⟨⟨m, policy⟩, hpolicy, rfl⟩
    rcases List.mem_map.1 hpolicy with ⟨e, he, heq⟩
    cases heq
    exact List.mem_map.2 ⟨e, he, rfl⟩
  -- the roles alone name every method, and the other lists add none
  unfold MethodFacts.methods
  rw [hroles, hactions, hconditions, hroleNames, hactionNames, List.append_assoc,
    List.append_assoc]
  apply keysOf_append_of_subset
  intro n hn
  rcases List.mem_append.1 hn with hn | hn
  · exact hn
  · rcases List.mem_append.1 hn with hn | hn
    · exact hresources n hn
    · exact hconditionNames n hn

namespace MethodFacts

variable (f : MethodFacts) (completeness : Completeness) (method : String)

/-- A method has what a permission needs but for a condition. -/
def Grants : Prop :=
  f.rolesOf method ≠ [] ∧ f.actionOf method ≠ "" ∧ f.resourceOf method ≠ ""

/-- The permissions of a method differ in their roles only. -/
theorem mem_permissionsOf (p : Permission) :
    p ∈ f.permissionsOf completeness method ↔
      f.actionOf method ≠ "" ∧ f.resourceOf method ≠ "" ∧
        ∃ condition, f.conditionOf? completeness method = some condition ∧
          ∃ role ∈ f.rolesOf method,
            p = ⟨role, f.actionOf method, f.resourceOf method, condition⟩ := by
  unfold permissionsOf
  by_cases hlacks : (f.actionOf method).isEmpty || (f.resourceOf method).isEmpty
  · -- without an action or a resource there are no permissions
    rw [if_pos hlacks]
    have hempty : f.actionOf method = "" ∨ f.resourceOf method = "" := by
      simpa [String.isEmpty_iff] using hlacks
    refine iff_of_false (List.not_mem_nil) ?_
    rintro ⟨haction, hresource, -⟩
    exact hempty.elim haction hresource
  · rw [if_neg hlacks]
    -- else the condition decides
    have hgiven : f.actionOf method ≠ "" ∧ f.resourceOf method ≠ "" := by
      simpa [String.isEmpty_iff, not_or] using hlacks
    cases hcondition : f.conditionOf? completeness method with
    | none => simp
    | some condition =>
        rw [and_iff_right hgiven.1, and_iff_right hgiven.2]
        simp [eq_comm]

theorem mem_rolesOf_iff (role : String) :
    role ∈ f.rolesOf method ↔
      role ≠ "" ∧ ∃ written ∈ (lookup? f.roles method).getD [], Text.strip written = role := by
  unfold rolesOf
  rw [List.mem_filter, List.mem_map, and_comm]
  simp

/-- A method has a resource if one is found that is not blank. -/
theorem resourceOf_ne_empty_iff (resource : String) :
    (resource ≠ "" ∧ f.resourceOf method = resource) ↔
      resource ≠ "" ∧ ∃ text, lookup? f.resources method = some text ∧
        Text.strip text = resource := by
  unfold resourceOf
  apply and_congr_right
  intro hresource
  cases lookup? f.resources method with
  | none => simp [hresource.symm]
  | some text => simp

/-- A condition is a text that is found, or what stands for one that is not resolved. -/
theorem conditionOf?_eq_some_iff (condition : String) :
    f.conditionOf? completeness method = some condition ↔
      (∃ text, (lookup? f.conditions method).join = some text ∧ Text.strip text = condition) ∨
        (lookup? f.conditions method).join = none ∧ completeness = .conditionOptional ∧
          condition = "" := by
  unfold conditionOf?
  cases (lookup? f.conditions method).join with
  | some text => simp
  | none => cases completeness <;> simp [eq_comm]

/-- A permission of a method, field by field. -/
theorem mem_permissionsOf_iff_fields (p : Permission) :
    p ∈ f.permissionsOf completeness method ↔
      p.role ∈ f.rolesOf method ∧ (p.action ≠ "" ∧ f.actionOf method = p.action) ∧
        (p.resource ≠ "" ∧ f.resourceOf method = p.resource) ∧
          f.conditionOf? completeness method = some p.condition := by
  rw [mem_permissionsOf]
  constructor
  · rintro ⟨haction, hresource, condition, hcondition, role, hrole, rfl⟩
    exact ⟨hrole, ⟨haction, rfl⟩, ⟨hresource, rfl⟩, hcondition⟩
  · rintro ⟨hrole, ⟨haction, hactionOf⟩, ⟨hresource, hresourceOf⟩, hcondition⟩
    refine ⟨hactionOf ▸ haction, hresourceOf ▸ hresource, p.condition, hcondition, p.role, hrole, ?_⟩
    rw [hactionOf, hresourceOf]

/-- A method has a permission without a condition if nothing is lacking and its condition is empty. -/
theorem exists_unconditional_iff :
    (∃ p ∈ f.permissionsOf completeness method, p.condition = "") ↔
      f.Grants method ∧ f.conditionOf? completeness method = some "" := by
  constructor
  · rintro ⟨p, hp, hcondition⟩
    rcases (f.mem_permissionsOf completeness method p).1 hp with
      ⟨haction, hresource, condition, hfound, role, hrole, rfl⟩
    refine ⟨⟨List.ne_nil_of_mem hrole, haction, hresource⟩, ?_⟩
    rw [hfound]
    exact congrArg some hcondition
  · rintro ⟨⟨hroles, haction, hresource⟩, hfound⟩
    rcases List.exists_mem_of_ne_nil _ hroles with ⟨role, hrole⟩
    refine ⟨⟨role, f.actionOf method, f.resourceOf method, ""⟩, ?_, rfl⟩
    exact (f.mem_permissionsOf completeness method _).2
      ⟨haction, hresource, "", hfound, role, hrole, rfl⟩

/-! ## Facts that are left out -/

/-- Facts of which resources and conditions may be left out, but none is another one. -/
structure PartOf (f' f : MethodFacts) : Prop where
  roles : f'.roles = f.roles
  actions : f'.actions = f.actions
  methods : f'.methods = f.methods
  resources : ∀ n resource, lookup? f'.resources n = some resource →
    lookup? f.resources n = some resource
  conditions : ∀ n condition, (lookup? f'.conditions n).join = some condition →
    (lookup? f.conditions n).join = some condition

namespace PartOf

variable {f f' : MethodFacts}

theorem resourceOf_eq (h : f'.PartOf f) {n : String} (hresource : f'.resourceOf n ≠ "") :
    f'.resourceOf n = f.resourceOf n := by
  unfold resourceOf at hresource ⊢
  cases hfound : lookup? f'.resources n with
  | none => simp [hfound, Text.strip, Text.trim, Text.trimOf] at hresource
  | some resource => rw [h.resources n resource hfound]

theorem conditionOf?_eq (h : f'.PartOf f) {n condition : String}
    (hcondition : f'.conditionOf? .allFacts n = some condition) :
    f.conditionOf? .allFacts n = some condition := by
  unfold conditionOf? at hcondition ⊢
  cases hfound : (lookup? f'.conditions n).join with
  | none => simp [hfound] at hcondition
  | some text =>
      rw [h.conditions n text hfound]
      simpa [hfound] using hcondition

/-- A method keeps all its permissions or loses all. -/
theorem permissionsOf_sublist (h : f'.PartOf f) (n : String) :
    (f'.permissionsOf .allFacts n).Sublist (f.permissionsOf .allFacts n) := by
  have hroles : f'.rolesOf n = f.rolesOf n := by
    unfold rolesOf
    rw [h.roles]
  have haction : f'.actionOf n = f.actionOf n := by
    unfold actionOf
    rw [h.actions]
  by_cases hlacks : (f'.actionOf n).isEmpty || (f'.resourceOf n).isEmpty
  · have hnone : f'.permissionsOf .allFacts n = [] := by
      unfold permissionsOf
      rw [if_pos hlacks]
    rw [hnone]
    exact List.nil_sublist _
  · have hresource : f'.resourceOf n = f.resourceOf n := by
      apply h.resourceOf_eq
      intro hempty
      simp [hempty] at hlacks
    cases hcondition : f'.conditionOf? .allFacts n with
    | none =>
        have hnone : f'.permissionsOf .allFacts n = [] := by
          unfold permissionsOf
          rw [if_neg hlacks, hcondition]
        rw [hnone]
        exact List.nil_sublist _
    | some condition =>
        -- nothing is lacking, so all four facts are those of the other side
        have hsame : f'.permissionsOf .allFacts n = f.permissionsOf .allFacts n := by
          unfold permissionsOf
          rw [hcondition, h.conditionOf?_eq hcondition, hroles, haction, hresource]
        simp only [hsame, List.Sublist.refl]

/-- Fewer facts give a part of the permissions, in the same order. -/
theorem permissions_sublist (h : f'.PartOf f) :
    (f'.permissions .allFacts).Sublist (f.permissions .allFacts) := by
  unfold permissions
  rw [h.methods]
  induction f.methods with
  | nil => simp
  | cons n rest ih =>
      have hfirst := h.permissionsOf_sublist n
      simpa only [List.flatMap_cons] using List.Sublist.append hfirst ih

end PartOf

end MethodFacts

end RoleAudit
