import RoleAudit.Proofs.Audit.Guards
import RoleAudit.Proofs.Audit.Independence

/-!
# Oracles that answer less

An oracle may fail, or leave out some of the answers that another one gives. What it leaves out is
missing from the permissions, and nothing else changes:

- `usable`: the answers that count;
- `Oracle.AnswersLess`: one oracle gives a part of the answers of another one;
- `partsAlone_partOf`: so are the facts of a controller that are found with it;
- `permissions_alone_sublist`: a controller contributes a part of its permissions;
- `run_answersLess`: what this says of a whole audit.
-/

namespace RoleAudit

/-! ## Answers that count -/

/-- The answers that count: a failure answers nothing, and neither does an empty value. -/
def usable (outcome : Except String Answers) : Answers :=
  match outcome with
  | .error _ => []
  | .ok answers => given answers

/-- The answers of one outcome that count are among those of another one. -/
def UsableWithin (less more : Except String Answers) : Prop :=
  ∀ name value, (usable less).lookup name = some value → (usable more).lookup name = some value

/-- To every question an oracle fails or gives a part of the answers that another one gives. -/
structure Oracle.AnswersLess (less more : Oracle) : Prop where
  entities : ∀ methods source,
    UsableWithin (less.entities methods source).value (more.entities methods source).value
  constraints : ∀ policies uses source,
    UsableWithin (less.constraints policies uses source).value
      (more.constraints policies uses source).value

/-- An oracle that fails at some questions, and else answers as another one, answers less. -/
theorem Oracle.failingAt_answersLess (o : Oracle) (method : String) :
    (o.failingAt method).AnswersLess o := by
  constructor
  · intro methods source name value h
    by_cases hmethod : methods.contains method = true
    · have hfails : (o.failingAt method).entities methods source = return .error "no answer" :=
        if_pos hmethod
      rw [hfails] at h
      cases h
    · have hsame : (o.failingAt method).entities methods source = o.entities methods source :=
        if_neg hmethod
      rwa [hsame] at h
  · intro policies uses source name value h
    exact h

/-! ## The resources of a controller -/

/-- What the oracle says about the methods of a service, if it is asked. -/
def entityAnswers (a : Audit) (s : ServiceResolution) : Answers :=
  if !s.success || s.methods.isEmpty then []
  else usable (a.oracle.entities s.methods s.content).value

theorem entityMappings_nil (facts : ControllerFacts) (property : String) :
    entityMappings facts property [] = [] := by
  simp [entityMappings, joinThrough, lookup?]

theorem value_askEntities (a : Audit) (label : String) (facts : ControllerFacts)
    (s : ServiceResolution) :
    (askEntities a label facts s).value.value =
      entityMappings facts s.property (usable (a.oracle.entities s.methods s.content).value) := by
  unfold askEntities
  rw [Traced.value_bind]
  cases (a.oracle.entities s.methods s.content).value with
  | error e => exact (entityMappings_nil facts s.property).symm
  | ok answers => rfl

theorem value_entitiesFor (a : Audit) (label : String) (facts : ControllerFacts)
    (s : ServiceResolution) :
    (entitiesFor a label facts s).value.value =
      entityMappings facts s.property (entityAnswers a s) := by
  unfold entitiesFor entityAnswers
  cases s.success with
  | false => simp [entityMappings_nil]
  | true =>
      cases s.methods.isEmpty with
      | true => simp [entityMappings_nil]
      | false => simpa using value_askEntities a label facts s

/-- The resources of a controller are paths, or what is found about its service. -/
theorem foundResources_eq (a : Audit) (d : Disk) (r : Resolver) (label path : String)
    (facts : ControllerFacts) (cache : TextCache) :
    (foundResources a d r label path facts cache).1.2 =
      if a.usesBasePath then ⟨basePathMappings facts, [], []⟩
      else (entitiesFor a label facts
        ((resolveService d r facts (some path)).run cache).1).value := by
  unfold foundResources resourcesOf
  by_cases huses : a.usesBasePath
  · rw [if_pos huses, if_pos huses]
    rfl
  · rw [if_neg huses, if_neg huses]
    rfl

/-- The resources of a controller are paths, or made of the answers about its service. -/
theorem value_foundResources (a : Audit) (d : Disk) (r : Resolver) (label path : String)
    (facts : ControllerFacts) (cache : TextCache) :
    let service := ((resolveService d r facts (some path)).run cache).1
    (foundResources a d r label path facts cache).1.2.value =
      if a.usesBasePath then basePathMappings facts
      else entityMappings facts service.property (entityAnswers a service) := by
  intro service
  rw [foundResources_eq]
  by_cases huses : a.usesBasePath
  · rw [if_pos huses, if_pos huses]
  · rw [if_neg huses, if_neg huses]
    exact value_entitiesFor a label facts service

/-! ## The part that is left -/

section Parts

variable {a : Audit} {o : Oracle} (d : Disk) (project path source : String)

theorem lookup_entityAnswers (h : o.AnswersLess a.oracle) (s : ServiceResolution)
    {name value : String} (hless : (entityAnswers { a with oracle := o } s).lookup name = some value) :
    (entityAnswers a s).lookup name = some value := by
  unfold entityAnswers at hless ⊢
  by_cases hskipped : (!s.success || s.methods.isEmpty) = true
  · simp [hskipped] at hless
  · rw [if_neg hskipped] at hless ⊢
    exact h.entities s.methods s.content name value hless

/-- The answers about the policies of a controller that was found are the usable ones. -/
theorem policyAnswers_eq_usable (a : Audit) (facts : ControllerFacts) (p : PolicyResolution) :
    let found := facts.policyNames.filter p.resolvedNames.contains
    policyAnswers a facts p =
      if found.isEmpty then []
      else usable (a.oracle.constraints found (policyUses facts) p.content).value := by
  rfl

theorem lookup_answersAlone (h : o.AnswersLess a.oracle) {name value : String}
    (hless : ({ a with oracle := o }.answersAlone d project path source).lookup name =
      some value) :
    (a.answersAlone d project path source).lookup name = some value := by
  unfold Audit.answersAlone Audit.answersOf at hless ⊢
  rw [policyAnswers_eq_usable] at hless ⊢
  split at hless
  · simp at hless
  · rename_i hfound
    rw [if_neg hfound]
    exact h.constraints _ _ _ name value hless

/-- Fewer answers resolve no condition in another way. -/
theorem conditionFor_of_lookup {answers answers' : Answers} {policy condition : String}
    (h : ∀ name value, answers'.lookup name = some value → answers.lookup name = some value)
    (hless : conditionFor answers' policy = some condition) :
    conditionFor answers policy = some condition := by
  unfold conditionFor at hless ⊢
  by_cases hnone : policy.isEmpty = true
  · rw [if_pos hnone] at hless ⊢
    exact hless
  · rw [if_neg hnone] at hless ⊢
    exact h policy condition hless

end Parts

/-! ## The permissions of a controller -/

section Controllers

variable (a : Audit) (d : Disk) (project path source : String)

/-- The resources of a controller that is analysed by itself. -/
theorem resources_partsAlone :
    let facts := ControllerFacts.ofSource source
    let service := ((resolveService d (Resolver.usual project) facts (some path)).run []).1
    (a.partsAlone d project path source).resources =
      if a.usesBasePath then basePathMappings facts
      else entityMappings facts service.property (entityAnswers a service) := by
  have hresources := value_foundResources a d (Resolver.usual project)
    (projectRelative (d.absolute project) path) path (ControllerFacts.ofSource source) []
  intro facts service
  unfold Audit.partsAlone Audit.partsOf assembledFacts
  dsimp only
  rw [hresources]

/-- The conditions of a controller that is analysed by itself. -/
theorem conditions_partsAlone :
    (a.partsAlone d project path source).conditions =
      constraintMappings (ControllerFacts.ofSource source)
        (a.answersAlone d project path source) := by
  have hconditions := value_foundConditions a d (Resolver.usual project)
    (projectRelative (d.absolute project) path) path (ControllerFacts.ofSource source)
    (cacheSound_nil d (Resolver.usual project))
  unfold Audit.partsAlone Audit.partsOf assembledFacts Audit.answersAlone Audit.answersOf
  dsimp only
  rw [hconditions]

/-- The methods of a controller are those of its facts, whatever is found out about them. -/
theorem methods_partsAlone :
    (a.partsAlone d project path source).methods =
      keysOf (ControllerFacts.ofSource source).methods := by
  apply methods_of_declared rfl rfl ?_ (conditions_partsAlone a d project path source)
  intro n hn
  rw [resources_partsAlone] at hn
  by_cases huses : a.usesBasePath
  · rw [if_pos huses] at hn
    rcases List.mem_map.1 hn with ⟨entry, hentry, rfl⟩
    rcases List.mem_map.1 hentry with ⟨m, hm, rfl⟩
    exact hm
  · rw [if_neg huses] at hn
    exact mem_methods_of_mem_entityMappings hn

variable {a} {o : Oracle}

/-- With fewer answers the facts of a controller are a part of what they were. -/
theorem partsAlone_partOf (h : o.AnswersLess a.oracle) :
    ({ a with oracle := o }.partsAlone d project path source).PartOf
      (a.partsAlone d project path source) where
  roles := rfl
  actions := rfl
  methods := by rw [methods_partsAlone, methods_partsAlone]
  resources := by
    intro n resource hless
    unfold lookup? at hless ⊢
    rw [resources_partsAlone] at hless ⊢
    by_cases huses : a.usesBasePath
    · rw [if_pos huses] at hless ⊢
      exact hless
    · -- the call is the same, and only the answer about it may be missing
      rw [if_neg huses, lookup_entityMappings] at hless ⊢
      by_cases hn : n ∈ (ControllerFacts.ofSource source).methods
      · rw [if_pos hn] at hless ⊢
        rcases Option.bind_eq_some_iff.1 hless with ⟨call, hcall, hanswer⟩
        exact Option.bind_eq_some_iff.2 ⟨call, hcall, lookup_entityAnswers h _ hanswer⟩
      · rw [if_neg hn] at hless
        cases hless
  conditions := by
    intro n condition hless
    unfold lookup? at hless ⊢
    rw [conditions_partsAlone, lookup_constraintMappings] at hless ⊢
    cases hfirst : (ControllerFacts.ofSource source).endpoints.find? (fun e => e.name == n) with
    | none => simp [hfirst] at hless
    | some e =>
        rw [hfirst, Option.map_some, Option.join_some] at hless
        rw [Option.map_some, Option.join_some]
        exact conditionFor_of_lookup
          (fun name value => lookup_answersAlone d project path source h) hless

/-- With fewer answers a controller contributes a part of its permissions. -/
theorem permissions_alone_sublist (hcomplete : a.completeness = .allFacts)
    (h : o.AnswersLess a.oracle) :
    ({ a with oracle := o }.alone d project path).permissions.Sublist
      (a.alone d project path).permissions := by
  -- without a source or without methods there are no permissions, whatever the oracle answers
  cases hread : readText? d project path with
  | none =>
      have hnone : ∀ b : Audit, (b.alone d project path).permissions = [] := by
        intro b
        unfold Audit.alone
        rw [contribution_eq_of_readText?_none b d (Resolver.usual project) path [] hread]
        rfl
      rw [hnone]
      exact List.nil_sublist _
  | some source =>
      by_cases hmethods : (ControllerFacts.ofSource source).methods = []
      · have hnone : ∀ b : Audit, (b.alone d project path).permissions = [] := by
          intro b
          rw [alone_eq_contributed b d hread, Audit.contributed,
            contributionOf_eq_of_methods_nil _ _ _ _ _ _ _ hmethods]
          rfl
        rw [hnone]
        exact List.nil_sublist _
      · have hless : ({ a with oracle := o }.alone d project path).permissions =
            ({ a with oracle := o }.partsAlone d project path source).permissions .allFacts :=
          (permissions_alone _ d hread hmethods).trans (congrArg _ hcomplete)
        have hfull : (a.alone d project path).permissions =
            (a.partsAlone d project path source).permissions .allFacts :=
          (permissions_alone a d hread hmethods).trans (congrArg _ hcomplete)
        rw [hless, hfull]
        exact (partsAlone_partOf d project path source h).permissions_sublist

end Controllers

/-! ## A whole audit -/

/-- What one run gives of what another one gives: less is implemented, and more is lacking. -/
structure Run.PartOf (r' r : Run) : Prop where
  rules : r'.rules = r.rules
  extraction : r'.extraction = r.extraction
  permissions : r'.permissions.Sublist r.permissions
  redundant : r'.result.redundant.Sublist r.result.redundant
  lacking : r.result.lacking.Sublist r'.result.lacking

/-- Fewer permissions from the controllers make a run a part of what it was. -/
theorem Run.combined_partOf (oracle oracle' : String) (rules : List Permission) (e : Extraction)
    {paths : List String} {f f' : String → Contribution}
    (h : ∀ path ∈ paths, (f' path).permissions.Sublist (f path).permissions) :
    (combined oracle' rules e (paths.map f')).PartOf (combined oracle rules e (paths.map f)) := by
  have hpermissions : (combined oracle' rules e (paths.map f')).permissions.Sublist
      (combined oracle rules e (paths.map f)).permissions := by
    unfold combined
    dsimp only
    -- controller by controller
    induction paths with
    | nil => simp
    | cons path rest ih =>
        have hfirst := h path List.mem_cons_self
        have hrest := ih fun p hp => h p (List.mem_cons_of_mem path hp)
        simpa only [List.map_cons, List.flatMap_cons] using List.Sublist.append hfirst hrest
  exact {
    rules := rfl
    extraction := rfl
    permissions := hpermissions
    redundant := unmatched_sublist_left rules hpermissions
    lacking := unmatched_sublist_right rules fun p hp => hpermissions.subset hp }

/--
With an oracle that fails or answers less, an audit leaves the disk as it would be, fails where it
would fail, and otherwise implements a part of the permissions, finds a part of them redundant, and
finds all rules lacking that were lacking before. It does so however policies and archives are read.
-/
theorem run_answersLess (a : Audit) (o : Oracle) (d : Disk) (document : Policy.Document)
    (archive : Octets) (hcomplete : a.completeness = .allFacts) (h : o.AnswersLess a.oracle) :
    let full := (a.run d document archive).value
    let less := ((a.asking o).run d document archive).value
    less.1 = full.1 ∧
      ((∃ e, full.2 = .error e ∧ less.2 = .error e) ∨
        ∃ run run', full.2 = .ok run ∧ less.2 = .ok run' ∧ run'.PartOf run) := by
  intro full less
  -- up to the controllers the oracle is not asked
  have hprepared : (a.asking o).prepared d document archive = a.prepared d document archive := rfl
  have hfull : full = _ := value_run_eq_prepared a d document archive
  have hless : less = _ := value_run_eq_prepared (a.asking o) d document archive
  rw [hfull, hless, hprepared]
  rcases a.prepared d document archive with ⟨d', error | ⟨rules, e⟩⟩
  · exact ⟨rfl, Or.inl ⟨error, rfl, rfl⟩⟩
  · refine ⟨rfl, Or.inr ⟨_, _, rfl, rfl, ?_⟩⟩
    dsimp only
    rw [value_analyse, value_analyse]
    exact Run.combined_partOf a.oracle.name o.name rules e fun path _ =>
      permissions_alone_sublist d' e.path path hcomplete h

theorem run_answersLess_bank :
    ∃ run run',
      (bankAudit.run ⟨[], []⟩ (.text bankPolicy) (Archive.stored bankFiles)).value.2 = .ok run ∧
      ((bankAudit.asking failingOracle).run ⟨[], []⟩ (.text bankPolicy)
        (Archive.stored bankFiles)).value.2 = .ok run' ∧
      run'.PartOf run ∧ run'.permissions = [⟨"T", "GET", "account", ""⟩] ∧
      ⟨"T", "GET", "branch", ""⟩ ∈ run.permissions := by
  have hless : (bankAudit.oracle.failingAt "show").AnswersLess bankAudit.oracle :=
    bankAudit.oracle.failingAt_answersLess "show"
  have hbranch : ⟨"T", "GET", "branch", ""⟩ ∈
      (bankAudit.alone bankDisk "/x" "/x/src/b.controller.ts").permissions := by
    decide +kernel
  rcases (run_answersLess bankAudit failingOracle ⟨[], []⟩ (.text bankPolicy)
    (Archive.stored bankFiles) rfl hless).2 with
      ⟨error, herror, -⟩ | ⟨run, run', hrun, hrun', hpart⟩
  · -- the archive extracts, so that the audit does not fail
    rw [value_run bankAudit _ _ _ rfl rfl extractFrom_bank] at herror
    cases herror
  · have hpermissions := permissions_of_run bankAudit _ _ _ rfl rfl extractFrom_bank hrun
    have hpermissions' := permissions_of_run (bankAudit.asking failingOracle) _ _ _ rfl rfl
      extractFrom_bank hrun'
    refine ⟨run, run', hrun, hrun', hpart, ?_, ?_⟩
    · calc run'.permissions
          = bankExtraction.controllers.flatMap _ := hpermissions'
        _ = [[⟨"T", "GET", "account", ""⟩], []].flatten :=
            congrArg List.flatten permissions_failingOracle
    · have hpath : "/x/src/b.controller.ts" ∈ bankExtraction.controllers := by
        simp [bankExtraction]
      rw [hpermissions]
      exact List.mem_flatMap.2 ⟨_, hpath, hbranch⟩

end RoleAudit
