import RoleAudit.Proofs.Audit.Provenance
import RoleAudit.Proofs.Oracle.Asked

/-!
# Misses are noted

What cannot be resolved for a controller is missing from its permissions, and a note tells of it.
The names of policies and of service methods go through several subsets on the way, and an oracle
may fail in between, but none of them gets lost:

- `notesOf`: the notes of a kind;
- `PoliciesAccounted`: each policy of a controller has a condition, or is named by the one note on
  policies that were not found, or by the one on policies without a condition; only one of these;
- `ServiceAccounted`: a service that was not found is noted, and otherwise either the oracle's
  failure is noted or each method of the service has an entity or is named by the one note on
  entities;
- `misses_noted`: both hold for each controller with methods, and a run has its notes.
-/

namespace RoleAudit

/-! ## Notes by kind -/

/-- The notes of a kind. -/
def notesOf (kind : NoteKind) (notes : List Note) : List Note :=
  notes.filter fun n => n.kind = kind

theorem mem_notesOf {kind : NoteKind} {notes : List Note} {n : Note} :
    n ∈ notesOf kind notes ↔ n ∈ notes ∧ n.kind = kind := by
  simp [notesOf]

@[simp]
theorem notesOf_nil (kind : NoteKind) : notesOf kind [] = [] := rfl

@[simp]
theorem notesOf_append (kind : NoteKind) (notes notes' : List Note) :
    notesOf kind (notes ++ notes') = notesOf kind notes ++ notesOf kind notes' :=
  List.filter_append ..

@[simp]
theorem notesOf_cons (kind : NoteKind) (n : Note) (notes : List Note) :
    notesOf kind (n :: notes) = (if n.kind = kind then [n] else []) ++ notesOf kind notes := by
  unfold notesOf
  by_cases h : n.kind = kind <;> simp [h]

/-- A note that names something has its own kind only. -/
@[simp]
theorem notesOf_noteNames (kind : NoteKind) (label : String) (kind' : NoteKind) (start : String)
    (names : List String) :
    notesOf kind (noteNames label kind' start names) =
      if kind' = kind then noteNames label kind' start names else [] := by
  unfold noteNames
  cases names <;> simp

/-- What is noted when the oracle fails. -/
def failureNotes (label what : String) (outcome : Except String Answers) : List Note :=
  match outcome with
  | .error e => [⟨label, .oracle, s!"{what} resolution failed: {e}"⟩]
  | .ok _ => []

theorem notesOf_failureNotes {kind : NoteKind} (hkind : kind ≠ .oracle) (label what : String)
    (outcome : Except String Answers) : notesOf kind (failureNotes label what outcome) = [] := by
  cases outcome with
  | error e => simp [failureNotes, hkind.symm]
  | ok answers => rfl

/-- A note that the oracle failed to tell entities. -/
def Note.IsEntityFailure (n : Note) : Prop :=
  n.kind = .oracle ∧ ∃ e : String, n.detail = s!"Entity resolution failed: {e}"

theorem not_isEntityFailure_of_constraints {label : String} {outcome : Except String Answers}
    {n : Note} (h : n ∈ failureNotes label "Constraint" outcome) : ¬ n.IsEntityFailure := by
  rintro ⟨-, e, he⟩
  cases outcome with
  | ok answers => cases h
  | error e' =>
      rw [List.mem_singleton.1 h] at he
      -- the two texts begin with different letters
      have hletters := congrArg (fun s : String => s.toList.head?) he
      simp [ToString.toString] at hletters

/-! ## Policies -/

/-- The policies of a controller that were found. -/
def foundPolicies (facts : ControllerFacts) (p : PolicyResolution) : List String :=
  facts.policyNames.filter p.resolvedNames.contains

/-- The policies of a controller that were not found. -/
def lostPolicies (facts : ControllerFacts) (p : PolicyResolution) : List String :=
  facts.policyNames.filter fun n => !(foundPolicies facts p).contains n

/-- What the oracle says about the policies that were found, if it is asked. -/
def policyOutcome (a : Audit) (facts : ControllerFacts) (p : PolicyResolution) :
    Except String Answers :=
  if (foundPolicies facts p).isEmpty then .ok []
  else (a.oracle.constraints (foundPolicies facts p) (policyUses facts) p.content).value

theorem policyAnswers_eq_usable_policyOutcome (a : Audit) (facts : ControllerFacts)
    (p : PolicyResolution) : policyAnswers a facts p = usable (policyOutcome a facts p) := by
  have husable := policyAnswers_eq_usable a facts p
  unfold policyOutcome
  split
  · rename_i hnone
    rw [husable]
    exact if_pos hnone
  · rename_i hfound
    rw [husable]
    exact if_neg hfound

theorem notes_askConstraints (a : Audit) (label : String) (facts : ControllerFacts)
    (found : List String) (content : String) {outcome : Except String Answers}
    (h : (a.oracle.constraints found (policyUses facts) content).value = outcome) :
    (askConstraints a label facts found content).value.notes =
      failureNotes label "Constraint" outcome ++
        noteNames label .constraint "No constraint for " (unanswered found (usable outcome)) := by
  unfold askConstraints
  rw [Traced.value_bind, h]
  cases outcome <;> rfl

/-- The notes on policies: those that were not found, a failure, and those without a condition. -/
theorem notes_conditionsFor (a : Audit) (label : String) (facts : ControllerFacts)
    (p : PolicyResolution) :
    (conditionsFor a label facts p).value.notes =
      noteNames label .policy "Cannot find policy content for " (lostPolicies facts p) ++
        (failureNotes label "Constraint" (policyOutcome a facts p) ++
          noteNames label .constraint "No constraint for "
            (unanswered (foundPolicies facts p) (policyAnswers a facts p))) := by
  rw [policyAnswers_eq_usable_policyOutcome]
  by_cases hnone : (foundPolicies facts p).isEmpty = true
  · -- nobody is asked if no policy was found
    have houtcome : policyOutcome a facts p = .ok [] := if_pos hnone
    have hnames : foundPolicies facts p = [] := List.isEmpty_iff.1 hnone
    have hnotes : (conditionsFor a label facts p).value.notes =
        noteNames label .policy "Cannot find policy content for " (lostPolicies facts p) := by
      unfold conditionsFor
      exact congrArg (fun t : Traced (Finding (Option String)) => t.value.notes) (if_pos hnone)
    rw [hnotes, houtcome, hnames]
    simp [failureNotes, unanswered, noteNames]
  · -- else what the oracle leaves open is noted after what was not found
    have houtcome : policyOutcome a facts p =
        (a.oracle.constraints (foundPolicies facts p) (policyUses facts) p.content).value :=
      if_neg hnone
    have hnotes : (conditionsFor a label facts p).value.notes =
        noteNames label .policy "Cannot find policy content for " (lostPolicies facts p) ++
          (askConstraints a label facts (foundPolicies facts p) p.content).value.notes := by
      unfold conditionsFor
      exact congrArg (fun t : Traced (Finding (Option String)) => t.value.notes) (if_neg hnone)
    rw [hnotes, houtcome, notes_askConstraints a label facts _ _ rfl]

/-- An answer that counts was given by the oracle. -/
theorem mem_keys_of_lookup_given {answers : Answers} {name text : String}
    (h : (given answers).lookup name = some text) : name ∈ answers.map (·.1) ∧ text ≠ "" := by
  have hmem := List.mem_filter.1 (mem_of_lookup h)
  exact ⟨List.mem_map_of_mem hmem.1, by simpa using hmem.2⟩

/-- A policy that has an answer was found, and the answer is not empty. -/
theorem mem_foundPolicies_of_answered {a : Audit} (hshipped : a.oracle.Shipped)
    {facts : ControllerFacts} {p : PolicyResolution} {policy text : String}
    (h : (policyAnswers a facts p).lookup policy = some text) :
    policy ∈ foundPolicies facts p ∧ text ≠ "" := by
  rw [policyAnswers_eq_usable_policyOutcome] at h
  unfold policyOutcome at h
  split at h
  · simp [usable, given] at h
  · cases houtcome : (a.oracle.constraints (foundPolicies facts p) (policyUses facts)
        p.content).value with
    | error e => simp [houtcome, usable] at h
    | ok answers =>
        rw [houtcome] at h
        rcases mem_keys_of_lookup_given h with ⟨hanswered, htext⟩
        exact ⟨hshipped.asked houtcome hanswered, htext⟩

/--
A policy has a condition: a text that is not empty, stands beside each of its endpoints, and is the
one that counts for a name whose first endpoint has the policy.
-/
def HasCondition (facts : ControllerFacts) (conditions : List (String × Option String))
    (policy : String) : Prop :=
  ∃ text, text ≠ "" ∧
    (∀ (i : Nat) (e : Endpoint), facts.endpoints[i]? = some e → e.policy = policy →
      conditions[i]? = some (e.name, some text)) ∧
    ∀ (name : String) (e : Endpoint), facts.endpoints.find? (fun e => e.name == name) = some e →
      e.policy = policy → lookup? conditions name = some (some text)

/-- The policies of a controller with an answer that is not empty are those with a condition. -/
theorem hasCondition_constraintMappings {facts : ControllerFacts} {answers : Answers}
    {policy : String} (hused : policy ∈ facts.policyNames) :
    HasCondition facts (constraintMappings facts answers) policy ↔
      ∃ text, text ≠ "" ∧ answers.lookup policy = some text := by
  rcases mem_policyNames.1 hused with ⟨hpolicy, e, he, rfl⟩
  have hanswer : conditionFor answers e.policy = answers.lookup e.policy := by
    simp [conditionFor, hpolicy, lookup?]
  have hcondition : ∀ (i : Nat) (e' : Endpoint), facts.endpoints[i]? = some e' →
      e'.policy = e.policy →
        (constraintMappings facts answers)[i]? = some (e'.name, answers.lookup e.policy) := by
    intro i e' hi hsame
    rw [← hanswer]
    simp [constraintMappings, ControllerFacts.policies, hi, hsame]
  refine exists_congr fun text => and_congr_right fun _ => ?_
  constructor
  · -- the policy is that of some endpoint
    rintro ⟨h, -⟩
    rcases List.mem_iff_getElem?.1 he with ⟨i, hi⟩
    have hentry := (h i e hi rfl).symm.trans (hcondition i e hi rfl)
    simpa using hentry.symm
  · intro h
    refine ⟨fun i e' hi hsame => ?_, fun name e' hfirst hsame => ?_⟩
    · rw [hcondition i e' hi hsame, h]
    · rw [lookup?, lookup_constraintMappings, hfirst, Option.map_some, hsame, hanswer, h]

/-- One of three statements holds, and no other one. -/
def OneOf (p q r : Prop) : Prop :=
  (p ∧ ¬ q ∧ ¬ r) ∨ (¬ p ∧ q ∧ ¬ r) ∨ (¬ p ∧ ¬ q ∧ r)

/--
Each policy of a controller has a condition, or is named as lost, or is named as blank. All that are
lost are named in one note, and so are all that are blank; without such policies there is no such
note.
-/
structure PoliciesAccounted (facts : ControllerFacts) (label : String)
    (conditions : List (String × Option String)) (notes : List Note) (lost blank : List String) :
    Prop where
  lostNoted : notesOf .policy notes =
    noteNames label .policy "Cannot find policy content for " lost
  blankNoted : notesOf .constraint notes = noteNames label .constraint "No constraint for " blank
  used : lost.Sublist facts.policyNames ∧ blank.Sublist facts.policyNames
  accounted : ∀ policy ∈ facts.policyNames,
    OneOf (HasCondition facts conditions policy) (policy ∈ lost) (policy ∈ blank)

theorem policiesAccounted {a : Audit} (hshipped : a.oracle.Shipped) (label : String)
    (facts : ControllerFacts) (p : PolicyResolution) :
    PoliciesAccounted facts label (constraintMappings facts (policyAnswers a facts p))
      (conditionsFor a label facts p).value.notes (lostPolicies facts p)
      (unanswered (foundPolicies facts p) (policyAnswers a facts p)) where
  lostNoted := by
    simp [notes_conditionsFor, notesOf_failureNotes]
  blankNoted := by
    simp [notes_conditionsFor, notesOf_failureNotes]
  used := ⟨List.filter_sublist, List.filter_sublist.trans List.filter_sublist⟩
  accounted := by
    intro policy hused
    have hlost : policy ∈ lostPolicies facts p ↔ policy ∉ foundPolicies facts p := by
      simp [lostPolicies, hused]
    rw [hasCondition_constraintMappings hused, hlost]
    -- an answer is one about a policy that was found; without one it matters whether it was found
    cases hanswer : (policyAnswers a facts p).lookup policy with
    | some text =>
        rcases mem_foundPolicies_of_answered hshipped hanswer with ⟨hfound, htext⟩
        exact Or.inl ⟨⟨text, htext, rfl⟩, not_not.2 hfound, by simp [unanswered, hanswer]⟩
    | none =>
        have hnone : ¬ ∃ text : String, text ≠ "" ∧ (none : Option String) = some text := by
          simp
        have hblank : policy ∈ unanswered (foundPolicies facts p) (policyAnswers a facts p) ↔
            policy ∈ foundPolicies facts p := by
          simp [unanswered, hanswer]
        rw [hblank]
        by_cases hfound : policy ∈ foundPolicies facts p
        · exact Or.inr (Or.inr ⟨hnone, not_not.2 hfound, hfound⟩)
        · exact Or.inr (Or.inl ⟨hnone, hfound, hfound⟩)

/-! ## The service -/

/-- The service of a controller that is analysed by itself. -/
def serviceAlone (d : Disk) (project path source : String) : ServiceResolution :=
  ((resolveService d (Resolver.usual project) (ControllerFacts.ofSource source)
    (some path)).run []).1

theorem serviceAlone_eq (d : Disk) (project path : String) {source : String}
    {facts : ControllerFacts} (h : ControllerFacts.ofSource source = facts) :
    serviceAlone d project path source =
      ((resolveService d (Resolver.usual project) facts (some path)).run []).1 := by
  rw [serviceAlone, h]

/-- What the oracle says about the methods of a service, if it is asked. -/
def entityOutcome (a : Audit) (s : ServiceResolution) : Except String Answers :=
  if !s.success || s.methods.isEmpty then .ok []
  else (a.oracle.entities s.methods s.content).value

theorem entityAnswers_eq_usable_entityOutcome (a : Audit) (s : ServiceResolution) :
    entityAnswers a s = usable (entityOutcome a s) := by
  unfold entityAnswers entityOutcome
  split <;> rfl

/-- The methods of a service that were found and have no entity, while the oracle does not fail. -/
def missedMethods (s : ServiceResolution) : Except String Answers → List String
  | .error _ => []
  | .ok answers => if s.success then unanswered s.methods (given answers) else []

theorem missedMethods_sublist (s : ServiceResolution) (outcome : Except String Answers) :
    (missedMethods s outcome).Sublist s.methods := by
  cases outcome with
  | error e => exact List.nil_sublist _
  | ok answers =>
      rw [missedMethods]
      split
      · exact List.filter_sublist
      · exact List.nil_sublist _

theorem notes_askEntities (a : Audit) (label : String) (facts : ControllerFacts)
    {s : ServiceResolution} (hfound : s.success = true) {outcome : Except String Answers}
    (h : (a.oracle.entities s.methods s.content).value = outcome) :
    (askEntities a label facts s).value.notes =
      failureNotes label "Entity" outcome ++
        noteNames label .entity s!"No entity for {s.serviceName}." (missedMethods s outcome) := by
  unfold askEntities
  rw [Traced.value_bind, h]
  cases outcome with
  | error e => rfl
  | ok answers =>
      rw [missedMethods, if_pos hfound]
      rfl

/-- What is noted when the service was not found. -/
def lostServiceNotes (label : String) (s : ServiceResolution) : List Note :=
  if s.success then [] else [⟨label, .service, s.error.getD "Service not found"⟩]

@[simp]
theorem notesOf_lostServiceNotes (kind : NoteKind) (label : String) (s : ServiceResolution) :
    notesOf kind (lostServiceNotes label s) =
      if kind = .service then lostServiceNotes label s else [] := by
  unfold lostServiceNotes
  split
  · simp
  · simp [eq_comm]

/-- The notes on the service: that it is lost, a failure, and the methods without an entity. -/
theorem notes_entitiesFor (a : Audit) (label : String) (facts : ControllerFacts)
    (s : ServiceResolution) :
    (entitiesFor a label facts s).value.notes =
      lostServiceNotes label s ++
        (failureNotes label "Entity" (entityOutcome a s) ++
          noteNames label .entity s!"No entity for {s.serviceName}."
            (missedMethods s (entityOutcome a s))) := by
  cases hfound : s.success with
  | false =>
      simp [entitiesFor, lostServiceNotes, entityOutcome, missedMethods, failureNotes, noteNames,
        hfound]
  | true =>
      -- a service without methods is not asked about
      cases hmethods : s.methods.isEmpty with
      | true =>
          have hnone : s.methods = [] := List.isEmpty_iff.1 hmethods
          simp [entitiesFor, lostServiceNotes, entityOutcome, missedMethods, failureNotes,
            noteNames, unanswered, hfound, hnone]
      | false =>
          have houtcome : entityOutcome a s = (a.oracle.entities s.methods s.content).value := by
            simp [entityOutcome, hfound, hmethods]
          have hnotes : (entitiesFor a label facts s).value.notes =
              (askEntities a label facts s).value.notes := by
            simp [entitiesFor, hfound, hmethods]
          rw [hnotes, houtcome, notes_askEntities a label facts hfound rfl, lostServiceNotes,
            if_pos hfound, List.nil_append]

/--
A service that was not found is noted. For one with methods, either the oracle's failure is noted,
or each method has an entity or is named as missing, and not both; all that are missing are named in
one note.
-/
structure ServiceAccounted (label : String) (s : ServiceResolution) (entities : Answers)
    (notes : List Note) : Prop where
  service : notesOf .service notes =
    if s.success then [] else [⟨label, .service, s.error.getD "Service not found"⟩]
  methods : s.success = true → s.methods ≠ [] → ∃ missing : List String,
    notesOf .entity notes =
        noteNames label .entity s!"No entity for {s.serviceName}." missing ∧
      missing.Sublist s.methods ∧
      Xor (∃ n ∈ notes, n.IsEntityFailure)
        (∀ m ∈ s.methods, Xor (∃ text, text ≠ "" ∧ entities.lookup m = some text) (m ∈ missing))

/-- The oracle's failure is among the notes on the service exactly if the oracle failed. -/
theorem exists_isEntityFailure_iff (a : Audit) (label : String) (facts : ControllerFacts)
    (s : ServiceResolution) :
    (∃ n ∈ (entitiesFor a label facts s).value.notes, n.IsEntityFailure) ↔
      ∃ e, entityOutcome a s = .error e := by
  rw [notes_entitiesFor]
  cases houtcome : entityOutcome a s with
  | error e =>
      refine iff_of_true ?_ ⟨e, rfl⟩
      refine ⟨⟨label, .oracle, s!"Entity resolution failed: {e}"⟩, ?_, rfl, e, rfl⟩
      exact List.mem_append_right _ (List.mem_append_left _ (List.mem_singleton_self _))
  | ok answers =>
      refine iff_of_false ?_ (by simp)
      rintro ⟨n, hn, hkind, -⟩
      have hmem := mem_notesOf.2 ⟨hn, hkind⟩
      simp [failureNotes] at hmem

theorem serviceAccounted (a : Audit) (label : String) (facts : ControllerFacts)
    (s : ServiceResolution) :
    ServiceAccounted label s (entityAnswers a s) (entitiesFor a label facts s).value.notes where
  service := by
    simp only [notes_entitiesFor, notesOf_append, notesOf_lostServiceNotes, if_true,
      notesOf_failureNotes (by decide : NoteKind.service ≠ .oracle), notesOf_noteNames]
    simp [lostServiceNotes]
  methods := by
    intro hfound hmethods
    refine ⟨missedMethods s (entityOutcome a s), ?_, missedMethods_sublist s _, ?_⟩
    · simp [notes_entitiesFor, notesOf_failureNotes, lostServiceNotes, hfound]
    · rw [exists_isEntityFailure_iff, entityAnswers_eq_usable_entityOutcome]
      cases entityOutcome a s with
      | error e =>
          -- without answers a method neither has an entity nor is named
          rcases List.exists_mem_of_ne_nil _ hmethods with ⟨m, hm⟩
          refine Or.inl ⟨⟨e, rfl⟩, fun hall => ?_⟩
          simpa [Xor, usable, missedMethods] using hall m hm
      | ok answers =>
          refine Or.inr ⟨fun m hm => ?_, by simp⟩
          have hmissing : m ∈ missedMethods s (.ok answers) ↔ (given answers).lookup m = none := by
            simp [missedMethods, hfound, unanswered, hm]
          rw [hmissing, usable]
          cases hanswer : (given answers).lookup m with
          | none => exact Or.inr ⟨rfl, by simp⟩
          | some text =>
              exact Or.inl ⟨⟨text, (mem_keys_of_lookup_given hanswer).2, rfl⟩, by simp⟩

/-! ## A controller -/

theorem not_isEntityFailure_of_mem_conditionsFor {a : Audit} {label : String}
    {facts : ControllerFacts} {p : PolicyResolution} {n : Note}
    (hn : n ∈ (conditionsFor a label facts p).value.notes) : ¬ n.IsEntityFailure := by
  intro hfailure
  rw [notes_conditionsFor] at hn
  have hmem : n ∈ notesOf .oracle (failureNotes label "Constraint" (policyOutcome a facts p)) := by
    simpa using mem_notesOf.2 ⟨hn, hfailure.1⟩
  exact not_isEntityFailure_of_constraints (mem_notesOf.1 hmem).1 hfailure

/-- Notes of other kinds do not change which policies are accounted for. -/
theorem PoliciesAccounted.append_left {facts : ControllerFacts} {label : String}
    {conditions : List (String × Option String)} {notes notes' : List Note}
    {lost blank : List String} (h : PoliciesAccounted facts label conditions notes lost blank)
    (hpolicy : notesOf .policy notes' = []) (hconstraint : notesOf .constraint notes' = []) :
    PoliciesAccounted facts label conditions (notes' ++ notes) lost blank where
  lostNoted := by rw [notesOf_append, hpolicy, List.nil_append, h.lostNoted]
  blankNoted := by rw [notesOf_append, hconstraint, List.nil_append, h.blankNoted]
  used := h.used
  accounted := h.accounted

theorem ServiceAccounted.append_right {label : String} {s : ServiceResolution} {entities : Answers}
    {notes notes' : List Note} (h : ServiceAccounted label s entities notes)
    (hservice : notesOf .service notes' = []) (hentity : notesOf .entity notes' = [])
    (hfailure : ∀ n ∈ notes', ¬ n.IsEntityFailure) :
    ServiceAccounted label s entities (notes ++ notes') where
  service := by rw [notesOf_append, hservice, List.append_nil, h.service]
  methods := by
    intro hfound hmethods
    rcases h.methods hfound hmethods with ⟨missing, hnoted, hwithin, hone⟩
    have hsame : (∃ n ∈ notes ++ notes', n.IsEntityFailure) ↔ ∃ n ∈ notes, n.IsEntityFailure := by
      simp only [List.mem_append, or_and_right, exists_or]
      exact or_iff_left fun ⟨n, hn, h⟩ => hfailure n hn h
    refine ⟨missing, ?_, hwithin, ?_⟩
    · rw [notesOf_append, hentity, List.append_nil, hnoted]
    · rw [hsame]
      exact hone

section Controllers

variable (a : Audit) (d : Disk) {project path source : String}

/-- The notes on a controller are those on its service and those on its policies. -/
theorem notes_alone (hread : readText? d project path = some source)
    (hmethods : (ControllerFacts.ofSource source).methods ≠ []) :
    (a.alone d project path).notes =
      (if a.usesBasePath then []
        else (entitiesFor a (projectRelative (d.absolute project) path)
          (ControllerFacts.ofSource source) (serviceAlone d project path source)).value.notes) ++
        (conditionsFor a (projectRelative (d.absolute project) path)
          (ControllerFacts.ofSource source) (policiesAlone d project path source)).value.notes := by
  unfold serviceAlone policiesAlone
  rw [alone_eq_contributed a d hread, Audit.contributed, contributionOf_eq _ _ _ _ _ _ _ hmethods]
  dsimp only
  rw [foundResources_eq, foundConditions_eq _ _ _ _ _ _ (cacheSound_nil d _)]
  split <;> rfl

theorem policiesAccounted_alone (hshipped : a.oracle.Shipped)
    (hread : readText? d project path = some source)
    (hmethods : (ControllerFacts.ofSource source).methods ≠ []) :
    ∃ lost blank, PoliciesAccounted (ControllerFacts.ofSource source)
      (projectRelative (d.absolute project) path) (a.partsAlone d project path source).conditions
      (a.alone d project path).notes lost blank := by
  have hpolicies := policiesAccounted hshipped (projectRelative (d.absolute project) path)
    (ControllerFacts.ofSource source) (policiesAlone d project path source)
  have hconditions : (a.partsAlone d project path source).conditions =
      constraintMappings (ControllerFacts.ofSource source) (policyAnswers a
        (ControllerFacts.ofSource source) (policiesAlone d project path source)) :=
    conditions_partsAlone a d project path source
  rw [hconditions, notes_alone a d hread hmethods]
  -- the notes on the service come first, and are of other kinds
  refine ⟨_, _, hpolicies.append_left ?_ ?_⟩
  · split
    · rfl
    · simp [notes_entitiesFor, notesOf_failureNotes]
  · split
    · rfl
    · simp [notes_entitiesFor, notesOf_failureNotes]

theorem serviceAccounted_alone (huses : a.usesBasePath = false)
    (hread : readText? d project path = some source)
    (hmethods : (ControllerFacts.ofSource source).methods ≠ []) :
    ServiceAccounted (projectRelative (d.absolute project) path)
      (serviceAlone d project path source) (entityAnswers a (serviceAlone d project path source))
      (a.alone d project path).notes := by
  have hservice := serviceAccounted a (projectRelative (d.absolute project) path)
    (ControllerFacts.ofSource source) (serviceAlone d project path source)
  rw [notes_alone a d hread hmethods, huses]
  refine hservice.append_right ?_ ?_ fun n => not_isEntityFailure_of_mem_conditionsFor
  · simp [notes_conditionsFor, notesOf_failureNotes]
  · simp [notes_conditionsFor, notesOf_failureNotes]

/-- The resources of a controller are made of the answers about its service. -/
theorem resources_of_entities (huses : a.usesBasePath = false) :
    (a.partsAlone d project path source).resources =
      entityMappings (ControllerFacts.ofSource source) (serviceAlone d project path source).property
        (entityAnswers a (serviceAlone d project path source)) := by
  have hresources := resources_partsAlone a d project path source
  rw [huses] at hresources
  unfold serviceAlone
  exact hresources

/-- The notes on a controller are among those of a run. -/
theorem notes_alone_infix (rules : List Permission) {e : Extraction} (h : path ∈ e.controllers) :
    (a.alone d e.path path).notes <:+: (a.analyse d rules e).value.unresolved := by
  have hnotes : (a.alone d e.path path).notes ∈
      (e.controllers.map (a.alone d e.path)).map Contribution.notes :=
    List.mem_map_of_mem (List.mem_map_of_mem h)
  rw [value_analyse, Run.combined, List.flatMap_def]
  exact List.infix_of_mem_flatten hnotes

/--
For each controller with methods, whatever the project and the oracle: each policy has a condition
or is named in the one note on lost policies or in the one on blank ones, and only one of these; a
service that was not found is noted, and for one with methods either a failure of the oracle is noted
or each of them has an entity or is named in the one note on entities. All notes are among those of
a run.
-/
theorem misses_noted (hshipped : a.oracle.Shipped) (hread : readText? d project path = some source)
    (hmethods : (ControllerFacts.ofSource source).methods ≠ []) :
    let facts := ControllerFacts.ofSource source
    let label := projectRelative (d.absolute project) path
    let parts := a.partsAlone d project path source
    let service := serviceAlone d project path source
    let found := a.alone d project path
    found.permissions = parts.permissions a.completeness ∧
      (∃ lost blank, PoliciesAccounted facts label parts.conditions found.notes lost blank) ∧
      (a.usesBasePath = false →
        parts.resources = entityMappings facts service.property (entityAnswers a service) ∧
          ServiceAccounted label service (entityAnswers a service) found.notes) ∧
      ∀ (rules : List Permission) (e : Extraction), e.path = project → path ∈ e.controllers →
        found.notes <:+: (a.analyse d rules e).value.unresolved := by
  intro facts label parts service found
  refine ⟨permissions_alone a d hread hmethods, policiesAccounted_alone a d hshipped hread hmethods,
    fun huses => ⟨?_, serviceAccounted_alone a d huses hread hmethods⟩, ?_⟩
  · exact resources_of_entities a d huses
  · rintro rules e rfl hcontroller
    exact notes_alone_infix a d rules hcontroller

end Controllers

/-- A controller with a policy that can be found, one that cannot, and a service. -/
def guardedSource : String :=
  "import\x7bPolicy,AService\x7dfrom'./a';class C\x7bconstructor(b:AService)\x7b\x7d" ++
    "@CheckPolicies(new Policy())l()\x7bthis.b.f()\x7d@CheckPolicies(new Q())m()\x7b\x7d\x7d"

/-- A disk with the controller and the file that it imports from. -/
def guardedDisk : Disk :=
  ⟨[(["c"], .file (Text.encodeUtf8 guardedSource)), (["a.ts"], .file (Text.encodeUtf8
    "class Policy\x7bconstructor()\x7bsuper('a')\x7d\x7dclass AService\x7bf()\x7b\x7d\x7d"))], []⟩

/-- An audit that reads the source, with entities for resources. -/
def readingAudit : Audit :=
  { plainAudit with oracle := Oracle.reading, usesBasePath := false }

theorem misses_noted_guardedDisk :
    ((serviceAlone guardedDisk "/" "/c" guardedSource).success = true ∧
      (serviceAlone guardedDisk "/" "/c" guardedSource).methods = ["f"]) ∧
    (∃ lost blank, PoliciesAccounted (ControllerFacts.ofSource guardedSource) "c"
      (readingAudit.partsAlone guardedDisk "/" "/c" guardedSource).conditions
      (readingAudit.alone guardedDisk "/" "/c").notes lost blank) ∧
    ServiceAccounted "c" (serviceAlone guardedDisk "/" "/c" guardedSource)
      (entityAnswers readingAudit (serviceAlone guardedDisk "/" "/c" guardedSource))
      (readingAudit.alone guardedDisk "/" "/c").notes := by
  have hfacts : ControllerFacts.ofSource guardedSource =
      ⟨"C", "", [⟨"l", 1, "", [], "Policy", none, [⟨"l", "b", "f"⟩]⟩,
        ⟨"m", 1, "", [], "Q", none, []⟩], [("b", "AService")],
        [⟨"Policy", "./a"⟩, ⟨"AService", "./a"⟩]⟩ := by
    decide +kernel
  have hmethods : (ControllerFacts.ofSource guardedSource).methods ≠ [] := by
    simp [hfacts, ControllerFacts.methods]
  have hread : readText? guardedDisk "/" "/c" = some guardedSource := by decide +kernel
  have hlabel : projectRelative (guardedDisk.absolute "/") "/c" = "c" := by decide +kernel
  have hservice : (serviceAlone guardedDisk "/" "/c" guardedSource).success = true ∧
      (serviceAlone guardedDisk "/" "/c" guardedSource).methods = ["f"] := by
    rw [serviceAlone_eq _ _ _ hfacts]
    decide +kernel
  rcases misses_noted readingAudit guardedDisk Oracle.Shipped.reading hread hmethods with
    ⟨-, hpolicies, hentities, -⟩
  rw [hlabel] at hpolicies hentities
  exact ⟨hservice, hpolicies, (hentities rfl).2⟩

end RoleAudit
