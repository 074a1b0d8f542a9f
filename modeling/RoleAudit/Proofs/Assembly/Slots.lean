import RoleAudit.Proofs.Assembly
import RoleAudit.Proofs.Policy.Flattening

/-!
# The slots of an assembly

A permission comes from one role of one method. So the permissions that are assembled stand in slots,
each of which is a method and a place among the roles that are given for it. This holds for any lists,
with names that are repeated or missing and values that are missing or blank:

- `assembleGiven_given`: the facts of a controller are such lists;
- `Slot`, `GivenFacts.permissionAt`: the permission of a slot, made of the first values that are listed
  for the method;
- `GivenFacts.Fills`: what a slot needs for its permission;
- `GivenFacts.slots`: the slots that have what they need, with `mem_slots` and `pairwise_slots`: all of
  them, by the first appearance of their methods and then by the places of their roles;
- `value_assembleGiven`: an assembly is what these slots give;
- `assembleGiven_slots`: this said without the way to compute it, and what it says of every field;
- `assembleGiven_conditionOptional`: what is added where conditions may be missing.
-/

namespace RoleAudit

open Policy (HasSign strip_eq_empty_iff)
open Text (isBlank BareOf)

/-! ## First values -/

/-- The first value that is listed for a name, if it is not missing there. -/
def first? (entries : List (String × Option String)) (name : String) : Option String :=
  (lookup? entries name).join

/-- A value is there, and it is not blank. -/
def IsGiven (value : Option String) : Prop :=
  ∃ text, value = some text ∧ HasSign text

instance (value : Option String) : Decidable (IsGiven value) :=
  decidable_of_iff (value.any (HasSign ·) = true) <| by
    simp [IsGiven, Option.any_eq_true]

theorem strip_ne_empty_iff (text : String) : Text.strip text ≠ "" ↔ HasSign text := by
  rw [ne_eq, strip_eq_empty_iff, not_not]

theorem isGiven_iff_strip (value : Option String) :
    IsGiven value ↔ Text.strip (value.getD "") ≠ "" := by
  cases value with
  | none => simp [IsGiven]
  | some text => simp [IsGiven, strip_ne_empty_iff]

/-- In settled lists a missing value is an empty one. -/
theorem lookup_settled (entries : List (String × Option String)) (name : String) :
    (lookup? (entries.map fun (n, value) => (n, value.getD "")) name).getD "" =
      (first? entries name).getD "" := by
  have hfirst : lookup? (entries.map fun (n, value) => (n, value.getD "")) name =
      (lookup? entries name).map fun value => value.getD "" :=
    lookup_map_snd (fun value : Option String => value.getD "") entries name
  rw [hfirst, first?]
  rcases lookup? entries name with - | - | text <;> rfl

/-- The facts of a controller as given lists: at most conditions are missing in them. -/
def MethodFacts.given (f : MethodFacts) : GivenFacts where
  roles := f.roles.map fun (method, roles) => (method, .several (roles.map some))
  actions := f.actions.map fun (method, action) => (method, some action)
  resources := f.resources.map fun (method, resource) => (method, some resource)
  conditions := f.conditions

/-- So the permissions of a controller are assembled from given lists. -/
theorem assembleGiven_given (f : MethodFacts) (policy : Completeness) :
    assembleGiven f.given policy = assemble f policy := by
  have hsettled : f.given.settled = f := by
    simp [MethodFacts.given, GivenFacts.settled, GivenRoles.texts, GivenRoles.places,
      Function.comp_def]
  exact congrArg (assemble · policy) hsettled

/-! ## Slots -/

/-- A method and a place among the roles that are given for it. -/
structure Slot where
  method : String
  place : Nat
  deriving DecidableEq, Repr

namespace GivenFacts

section Slots

variable (g : GivenFacts) (policy : Completeness)

/-- The names in the four lists, one list after the other. -/
def names : List String :=
  g.roles.map (·.1) ++ g.actions.map (·.1) ++ g.resources.map (·.1) ++ g.conditions.map (·.1)

/-- The places for roles that are first listed for a method. -/
def placesOf (method : String) : List (Option String) :=
  ((lookup? g.roles method).map GivenRoles.places).getD []

/-- The role in a slot. -/
def roleAt? (s : Slot) : Option String :=
  (g.placesOf s.method)[s.place]?.join

/-- The first condition that is listed for a method is a text, which may be empty. -/
def IsResolved (method : String) : Prop :=
  ∃ text, lookup? g.conditions method = some (some text)

theorem isResolved_iff (method : String) :
    g.IsResolved method ↔ (first? g.conditions method).isSome = true := by
  simp [IsResolved, first?, Option.isSome_iff_exists, Option.join_eq_some_iff]

instance (method : String) : Decidable (g.IsResolved method) :=
  decidable_of_iff _ (g.isResolved_iff method).symm

/-- One slot comes before another one: by the first appearance of its method, then by its place. -/
def Before (s t : Slot) : Prop :=
  g.names.idxOf s.method < g.names.idxOf t.method ∨ s.method = t.method ∧ s.place < t.place

/-- What a slot needs: a role, and an action, a resource and mostly a condition for its method. -/
structure Fills (s : Slot) : Prop where
  role : IsGiven (g.roleAt? s)
  action : IsGiven (first? g.actions s.method)
  resource : IsGiven (first? g.resources s.method)
  condition : policy = .conditionOptional ∨ g.IsResolved s.method

theorem fills_iff (s : Slot) :
    g.Fills policy s ↔ IsGiven (g.roleAt? s) ∧ IsGiven (first? g.actions s.method) ∧
      IsGiven (first? g.resources s.method) ∧
        (policy = .conditionOptional ∨ g.IsResolved s.method) :=
  ⟨fun h => ⟨h.role, h.action, h.resource, h.condition⟩,
    fun ⟨hrole, haction, hresource, hcondition⟩ => ⟨hrole, haction, hresource, hcondition⟩⟩

instance (s : Slot) : Decidable (g.Fills policy s) :=
  decidable_of_iff _ (g.fills_iff policy s).symm

/-- The permission of a slot: its role and the first values of its method, all trimmed. -/
def permissionAt (s : Slot) : Permission where
  role := Text.strip ((g.roleAt? s).getD "")
  action := Text.strip ((first? g.actions s.method).getD "")
  resource := Text.strip ((first? g.resources s.method).getD "")
  condition := Text.strip ((first? g.conditions s.method).getD "")

/-- The slots of a method. -/
def slotsOf (method : String) : List Slot :=
  (List.range (g.placesOf method).length).map (Slot.mk method)

/-- The slots of all methods that have what they need. -/
def slots : List Slot :=
  ((Text.distinct g.names).flatMap g.slotsOf).filter (g.Fills policy ·)

end Slots

variable {g : GivenFacts} {policy : Completeness}

theorem mem_slotsOf {method : String} {s : Slot} :
    s ∈ g.slotsOf method ↔ s.method = method ∧ s.place < (g.placesOf method).length := by
  rcases s with ⟨method', place⟩
  simp only [slotsOf, List.mem_map, List.mem_range, Slot.mk.injEq]
  constructor
  · rintro ⟨place, hplace, rfl, rfl⟩
    exact ⟨rfl, hplace⟩
  · rintro ⟨rfl, hplace⟩
    exact ⟨place, hplace, rfl, rfl⟩

/-- A slot that has an action has a method that is named. -/
theorem Fills.mem_names {s : Slot} (h : g.Fills policy s) : s.method ∈ g.names := by
  rcases h.action with ⟨action, haction, -⟩
  have hlisted : s.method ∈ g.actions.map (·.1) :=
    List.mem_map_of_mem (mem_of_lookup (Option.join_eq_some_iff.1 haction))
  simp only [names, List.mem_append]
  exact Or.inl (Or.inl (Or.inr hlisted))

/-- All slots that have what they need are among them. -/
theorem mem_slots {s : Slot} : s ∈ g.slots policy ↔ g.Fills policy s := by
  simp only [slots, List.mem_filter, List.mem_flatMap, Text.mem_distinct, mem_slotsOf,
    decide_eq_true_eq]
  refine and_iff_right_of_imp fun hfills => ?_
  rcases hfills.role with ⟨role, hrole, -⟩
  have hplace : s.place < (g.placesOf s.method).length := by
    by_contra hbeyond
    simp [roleAt?, List.getElem?_eq_none (Nat.le_of_not_lt hbeyond)] at hrole
  exact ⟨s.method, hfills.mem_names, rfl, hplace⟩

/-- The slots stand in order. -/
theorem pairwise_slots : (g.slots policy).Pairwise g.Before := by
  refine List.Pairwise.filter _ (List.pairwise_flatMap.2 ⟨?_, ?_⟩)
  · -- within a method the places ascend
    intro method _
    refine List.pairwise_map.2 (List.pairwise_lt_range.imp ?_)
    intro place place' hlt
    exact Or.inr ⟨rfl, hlt⟩
  · -- the methods stand in the order of their first appearance
    refine (Text.pairwise_distinct g.names).imp ?_
    intro method method' hlt s hs s' hs'
    rw [← (mem_slotsOf.1 hs).1, ← (mem_slotsOf.1 hs').1] at hlt
    exact Or.inl hlt

/-! ## The permissions of a method -/

theorem methods_settled : g.settled.methods = Text.distinct g.names := by
  simp [MethodFacts.methods, keysOf, names, settled, Function.comp_def]

theorem actionOf_settled (method : String) :
    g.settled.actionOf method = Text.strip ((first? g.actions method).getD "") :=
  congrArg Text.strip (lookup_settled g.actions method)

theorem resourceOf_settled (method : String) :
    g.settled.resourceOf method = Text.strip ((first? g.resources method).getD "") :=
  congrArg Text.strip (lookup_settled g.resources method)

theorem conditionOf?_settled (method : String) :
    g.settled.conditionOf? policy method =
      if policy = .conditionOptional ∨ g.IsResolved method then
        some (Text.strip ((first? g.conditions method).getD ""))
      else none := by
  have hfirst : (lookup? g.settled.conditions method).join = first? g.conditions method := rfl
  unfold MethodFacts.conditionOf?
  simp only [hfirst, isResolved_iff]
  rcases Option.eq_none_or_eq_some (first? g.conditions method) with hnone | ⟨text, htext⟩
  · cases policy <;> simp [hnone]
  · simp [htext]

/-- What is given in a list of places, place by place. -/
theorem strip_given_places (places : List (Option String)) :
    ((places.filterMap id).map Text.strip).filter (fun role => !role.isEmpty) =
      ((List.range places.length).filter fun place => IsGiven places[place]?.join).map
        fun place => Text.strip (places[place]?.join.getD "") := by
  induction places with
  | nil => rfl
  | cons role rest ih =>
      -- the places of the rest are one further on
      have hrest : (((List.range rest.length).map Nat.succ).filter fun place =>
          IsGiven (role :: rest)[place]?.join).map
            (fun place => Text.strip ((role :: rest)[place]?.join.getD "")) =
          ((rest.filterMap id).map Text.strip).filter fun role => !role.isEmpty := by
        rw [ih, List.filter_map, List.map_map]
        rfl
      rw [List.length_cons, List.range_succ_eq_map, List.filter_cons]
      cases role with
      | none => simpa [IsGiven] using hrest.symm
      | some text =>
          by_cases hsign : HasSign text
          · have hstrip := (strip_ne_empty_iff text).2 hsign
            simpa [IsGiven, hsign, hstrip] using hrest.symm
          · have hstrip := (strip_eq_empty_iff text).2 hsign
            simpa [IsGiven, hsign, hstrip] using hrest.symm

/-- The roles of a method are what is given in its places. -/
theorem rolesOf_settled (method : String) :
    g.settled.rolesOf method =
      ((List.range (g.placesOf method).length).filter fun place =>
        IsGiven (g.placesOf method)[place]?.join).map fun place =>
          Text.strip ((g.placesOf method)[place]?.join.getD "") := by
  have hroles : (lookup? g.settled.roles method).getD [] = (g.placesOf method).filterMap id := by
    have hfirst : lookup? g.settled.roles method = (lookup? g.roles method).map GivenRoles.texts :=
      lookup_map_snd GivenRoles.texts g.roles method
    rw [hfirst, placesOf]
    cases lookup? g.roles method <;> rfl
  rw [MethodFacts.rolesOf, hroles, strip_given_places]

/-- The permissions of a method are those of its slots that have what they need. -/
theorem permissionsOf_settled (method : String) :
    g.settled.permissionsOf policy method =
      ((g.slotsOf method).filter (g.Fills policy ·)).map g.permissionAt := by
  have hplaces : ((g.slotsOf method).filter (g.Fills policy ·)).map g.permissionAt =
      ((List.range (g.placesOf method).length).filter fun place =>
        g.Fills policy ⟨method, place⟩).map fun place => g.permissionAt ⟨method, place⟩ := by
    rw [slotsOf, List.filter_map, List.map_map]
    rfl
  rw [hplaces]
  -- all slots of a method need the same but for their roles
  by_cases hneeds : IsGiven (first? g.actions method) ∧ IsGiven (first? g.resources method) ∧
      (policy = .conditionOptional ∨ g.IsResolved method)
  · have hfills : ∀ place, g.Fills policy ⟨method, place⟩ ↔
        IsGiven (g.placesOf method)[place]?.join := by
      intro place
      rw [fills_iff]
      exact and_iff_left hneeds
    rcases hneeds with ⟨haction, hresource, hcondition⟩
    rw [isGiven_iff_strip, ne_eq, ← String.isEmpty_iff] at haction hresource
    simp only [MethodFacts.permissionsOf, actionOf_settled, resourceOf_settled,
      conditionOf?_settled, haction, hresource, if_pos hcondition, rolesOf_settled, List.map_map,
      hfills]
    rfl
  · have hnone : ∀ place, ¬ g.Fills policy ⟨method, place⟩ := fun place h =>
      hneeds ⟨h.action, h.resource, h.condition⟩
    have hpermissions : g.settled.permissionsOf policy method = [] := by
      refine List.eq_nil_iff_forall_not_mem.2 fun p hp => hneeds ?_
      rcases (g.settled.mem_permissionsOf policy method p).1 hp with
        ⟨haction, hresource, condition, hcondition, -⟩
      rw [actionOf_settled, ← isGiven_iff_strip] at haction
      rw [resourceOf_settled, ← isGiven_iff_strip] at hresource
      refine ⟨haction, hresource, ?_⟩
      by_contra hlacks
      simp [conditionOf?_settled, if_neg hlacks] at hcondition
    simp [hpermissions, hnone]

/-- An assembly gives the permissions of the slots that have what they need. -/
theorem value_assembleGiven :
    (assembleGiven g policy).value = (g.slots policy).map g.permissionAt := by
  have hmethods : g.settled.permissionsOf policy = fun method =>
      ((g.slotsOf method).filter (g.Fills policy ·)).map g.permissionAt :=
    funext permissionsOf_settled
  calc
    (assembleGiven g policy).value
        = g.settled.methods.flatMap (g.settled.permissionsOf policy) := rfl
    _ = (Text.distinct g.names).flatMap fun method =>
          ((g.slotsOf method).filter (g.Fills policy ·)).map g.permissionAt := by
          rw [methods_settled, hmethods]
    _ = (g.slots policy).map g.permissionAt := by
          rw [slots, List.filter_flatMap, List.map_flatMap]

theorem bareOf_strip (text : String) : BareOf isBlank (Text.strip text).toList := by
  rw [Text.toList_strip]
  exact Text.bareOf_trimOf isBlank text.toList

end GivenFacts

open GivenFacts

/--
An assembly has one permission for each slot with a role, an action, a resource and, unless it may be
missing, a condition, and none for any other slot. The permissions come in the order of the slots. They
have a role, an action and a resource, and no field has blanks around it.
-/
theorem assembleGiven_slots (g : GivenFacts) (policy : Completeness) :
    (∃ slots : List Slot, slots.Pairwise g.Before ∧ (∀ s, s ∈ slots ↔ g.Fills policy s) ∧
        (assembleGiven g policy).value = slots.map g.permissionAt) ∧
      ∀ p ∈ (assembleGiven g policy).value, p.role ≠ "" ∧ p.action ≠ "" ∧ p.resource ≠ "" ∧
        ∀ field ∈ [p.role, p.action, p.resource, p.condition], BareOf isBlank field.toList := by
  refine ⟨⟨g.slots policy, pairwise_slots, fun s => mem_slots, value_assembleGiven⟩, ?_⟩
  intro p hp
  rw [value_assembleGiven] at hp
  rcases List.mem_map.1 hp with ⟨s, hs, rfl⟩
  have hfills : g.Fills policy s := mem_slots.1 hs
  refine ⟨(isGiven_iff_strip _).1 hfills.role, (isGiven_iff_strip _).1 hfills.action,
    (isGiven_iff_strip _).1 hfills.resource, ?_⟩
  intro field hfield
  simp only [List.mem_cons, List.not_mem_nil, or_false] at hfield
  rcases hfield with rfl | rfl | rfl | rfl <;> exact bareOf_strip _

/-- Lists with gaps, blanks and a name that is listed twice. -/
def gappedFacts : GivenFacts where
  roles := [("m", .several [some " ADMIN ", none, some " ", some "USER"]), ("n", .one "USER"),
    ("m", .one "OTHER")]
  actions := [("n", some "GET"), ("m", some "POST"), ("m", none)]
  resources := [("m", some "Loan"), ("n", some "Loan "), ("k", some "Loan")]
  conditions := [("m", some " a == b"), ("n", none), ("n", some "")]

example :
    (assembleGiven gappedFacts .allFacts).value =
      [⟨"ADMIN", "POST", "Loan", "a == b"⟩, ⟨"USER", "POST", "Loan", "a == b"⟩] := by
  decide +kernel

/-! ## Unresolved conditions -/

namespace GivenFacts

/-- Without missing conditions a slot needs the same, and a condition. -/
theorem slots_allFacts (g : GivenFacts) :
    g.slots .allFacts = (g.slots .conditionOptional).filter (g.IsResolved ·.method) := by
  have hneeds : ∀ s, g.Fills .allFacts s ↔
      g.IsResolved s.method ∧ g.Fills .conditionOptional s := by
    intro s
    simp only [fills_iff, reduceCtorEq, false_or, true_or, and_true]
    tauto
  unfold slots
  rw [List.filter_filter]
  simp only [hneeds, Bool.decide_and]

/-- A condition that is not resolved counts as none. -/
theorem condition_permissionAt {g : GivenFacts} {s : Slot} (h : ¬ g.IsResolved s.method) :
    (g.permissionAt s).condition = "" := by
  have hnone : first? g.conditions s.method = none := by
    simpa [isResolved_iff] using h
  simp [permissionAt, hnone]

end GivenFacts

/--
Where conditions may be missing, an assembly has all permissions that it has where they may not, in
the same order. What it has besides are the permissions of the methods whose first condition is missing,
and they are unconditional. So both are the same if every method has a condition.
-/
theorem assembleGiven_conditionOptional (g : GivenFacts) :
    let full := (assembleGiven g .allFacts).value
    let loose := (assembleGiven g .conditionOptional).value
    let slots := g.slots .conditionOptional
    let rest := (slots.filter (¬ g.IsResolved ·.method)).map g.permissionAt
    full.Sublist loose ∧
      (∀ s, s ∈ slots ↔ g.Fills .conditionOptional s) ∧
      loose = slots.map g.permissionAt ∧
      full = (slots.filter (g.IsResolved ·.method)).map g.permissionAt ∧
      loose.Perm (full ++ rest) ∧
      (∀ p ∈ rest, p.condition = "") ∧
      ((∀ method ∈ g.names, g.IsResolved method) → full = loose) := by
  intro full loose slots rest
  -- of all slots, those whose conditions are given make the smaller assembly
  have hloose : loose = slots.map g.permissionAt := value_assembleGiven
  have hfull : full = (slots.filter (g.IsResolved ·.method)).map g.permissionAt := by
    rw [← slots_allFacts]
    exact value_assembleGiven
  have hparts : (slots.filter (g.IsResolved ·.method) ++
      slots.filter (¬ g.IsResolved ·.method)).Perm slots := by
    simpa using List.filter_append_perm (g.IsResolved ·.method) slots
  refine ⟨?_, fun s => mem_slots, hloose, hfull, ?_, ?_, ?_⟩
  · rw [hfull, hloose]
    exact List.filter_sublist.map g.permissionAt
  · rw [hfull, hloose, ← List.map_append]
    exact (hparts.map g.permissionAt).symm
  · intro p hp
    rcases List.mem_map.1 hp with ⟨s, hs, rfl⟩
    exact condition_permissionAt (by simpa using List.of_mem_filter hs)
  · intro hresolved
    -- then no slot is left out
    have hall : slots.filter (g.IsResolved ·.method) = slots := by
      refine List.filter_eq_self.2 fun s hs => ?_
      simpa using hresolved s.method (mem_slots.1 hs).mem_names
    rw [hfull, hloose, hall]

/-- Lists with gaps in which every method has a condition. -/
def resolvedFacts : GivenFacts :=
  { gappedFacts with conditions := [("k", some ""), ("n", some " "), ("m", some "a"), ("m", none)] }

theorem assembleGiven_conditionOptional_resolvedFacts :
    (∀ method ∈ resolvedFacts.names, resolvedFacts.IsResolved method) ∧
      (assembleGiven resolvedFacts .allFacts).value =
        (assembleGiven resolvedFacts .conditionOptional).value := by
  have hresolved : ∀ method ∈ resolvedFacts.names, resolvedFacts.IsResolved method := by
    decide +kernel
  exact ⟨hresolved, (assembleGiven_conditionOptional resolvedFacts).2.2.2.2.2.2 hresolved⟩

end RoleAudit
