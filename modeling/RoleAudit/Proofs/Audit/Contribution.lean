import RoleAudit.Proofs.Resolution.Cache

/-!
# What a contribution is made of

The contribution of a controller is put together from its resources and its conditions, which are
found one after the other with one cache. This file takes both apart:

- `foundResources`, `foundConditions`: what is found out about a controller with a cache;
- `assembledFacts`: the four lists from which its permissions are made;
- `contributionOf_eq`, `contribution_eq`: its permissions are those of these lists;
- `contribution_congr_oracle`: of an oracle only the answers to its own questions count;
- `Audit.alone`: what a controller contributes when it is analysed by itself.
-/

namespace RoleAudit

/-! ## Parts -/

section Parts

variable (a : Audit) (d : Disk) (r : Resolver) (label path : String) (facts : ControllerFacts)
  (cache : TextCache)

/-- The service of a controller and its resources, with the texts that are kept afterwards. -/
def foundResources : (String × Finding String) × TextCache :=
  ((resourcesOf a d r label path facts).run cache).value

/-- The conditions of a controller, which are looked for after its resources. -/
def foundConditions : Finding (Option String) :=
  ((conditionsOf a d r label path facts).run
    (foundResources a d r label path facts cache).2).value.1

/-- The four lists from which the permissions of a controller are made. -/
def assembledFacts : MethodFacts where
  roles := facts.roles
  actions := facts.actions
  resources := (foundResources a d r label path facts cache).1.2.value
  conditions := (foundConditions a d r label path facts cache).value

/-- A controller with endpoints contributes what is made of its parts. -/
theorem contributionOf_eq (h : facts.methods ≠ []) :
    ((contributionOf a d r label path facts).run cache).value.1 =
      ⟨some ⟨label, facts.className, facts.basePath, facts.methods,
          (foundResources a d r label path facts cache).1.1, facts.policyNames,
          (assembledFacts a d r label path facts cache).permissions a.completeness⟩,
        (foundResources a d r label path facts cache).1.2.notes ++
          (foundConditions a d r label path facts cache).notes,
        (foundResources a d r label path facts cache).1.2.questions ++
          (foundConditions a d r label path facts cache).questions⟩ := by
  have hempty : facts.methods.isEmpty = false := by simpa using h
  unfold contributionOf
  simp only [hempty, Bool.false_eq_true, if_false]
  rfl

/-- A controller without endpoints contributes its name only. -/
theorem contributionOf_eq_of_methods_nil (h : facts.methods = []) :
    ((contributionOf a d r label path facts).run cache).value.1 =
      ⟨some ⟨label, facts.className, facts.basePath, facts.methods, "", facts.policyNames, []⟩,
        [], []⟩ := by
  unfold contributionOf
  simp only [h, List.isEmpty_nil, if_true]
  rfl

/-- A controller that can be read contributes what its facts do. -/
theorem contribution_eq {source : String} (h : readText? d r.project path = some source) :
    ((contribution a d r path).run cache).value.1 =
      ((contributionOf a d r (projectRelative (d.absolute r.project) path) path
        (extractFacts a.isVerbose source).value).run cache).value.1 := by
  unfold contribution
  simp only [h, StateT.run_bind, Traced.value_bind]
  rfl

/-- A controller that cannot be read contributes a note. -/
theorem contribution_eq_of_readText?_none (h : readText? d r.project path = none) :
    ((contribution a d r path).run cache).value.1 =
      ⟨none, [⟨projectRelative (d.absolute r.project) path, .controller,
        "Controller file could not be read"⟩], []⟩ := by
  unfold contribution
  simp only [h]
  rfl

end Parts

/-! ## The part of the oracle -/

/-- Two oracles answer a question alike. -/
def Oracle.AgreeOn (o o' : Oracle) : Question → Prop
  | .entities methods source =>
    (o.entities methods source).value = (o'.entities methods source).value
  | .constraints policies source =>
    ∀ uses, (o.constraints policies uses source).value = (o'.constraints policies uses source).value

section Agreement

variable {a : Audit} {o : Oracle}

theorem askEntities_congr_oracle (label : String) (facts : ControllerFacts) (s : ServiceResolution)
    (h : a.oracle.AgreeOn o (.entities s.methods s.content)) :
    (askEntities { a with oracle := o } label facts s).value =
      (askEntities a label facts s).value := by
  have hanswer : (a.oracle.entities s.methods s.content).value =
      (o.entities s.methods s.content).value := h
  unfold askEntities
  simp only [Traced.value_bind]
  rw [← hanswer]

theorem questions_askEntities (label : String) (facts : ControllerFacts) (s : ServiceResolution) :
    (askEntities a label facts s).value.questions = [.entities s.methods s.content] := by
  unfold askEntities
  simp only [Traced.value_bind]
  split <;> rfl

theorem entitiesFor_congr_oracle (label : String) (facts : ControllerFacts) (s : ServiceResolution)
    (h : ∀ q ∈ (entitiesFor a label facts s).value.questions, a.oracle.AgreeOn o q) :
    (entitiesFor { a with oracle := o } label facts s).value =
      (entitiesFor a label facts s).value := by
  unfold entitiesFor at h ⊢
  split
  · rfl
  · rename_i hfound
    rw [if_neg hfound] at h
    split
    · rfl
    · rename_i hasked
      rw [if_neg hasked, questions_askEntities] at h
      exact askEntities_congr_oracle label facts s (h _ (by simp))

theorem askConstraints_congr_oracle (label : String) (facts : ControllerFacts) (found : List String)
    (content : String) (h : a.oracle.AgreeOn o (.constraints found content)) :
    (askConstraints { a with oracle := o } label facts found content).value =
      (askConstraints a label facts found content).value := by
  have hanswer : (a.oracle.constraints found (policyUses facts) content).value =
      (o.constraints found (policyUses facts) content).value := h _
  unfold askConstraints
  simp only [Traced.value_bind]
  rw [← hanswer]

theorem questions_askConstraints (label : String) (facts : ControllerFacts) (found : List String)
    (content : String) :
    (askConstraints a label facts found content).value.questions =
      [.constraints found content] := by
  unfold askConstraints
  simp only [Traced.value_bind]
  split <;> rfl

theorem conditionsFor_congr_oracle (label : String) (facts : ControllerFacts) (p : PolicyResolution)
    (h : ∀ q ∈ (conditionsFor a label facts p).value.questions, a.oracle.AgreeOn o q) :
    (conditionsFor { a with oracle := o } label facts p).value =
      (conditionsFor a label facts p).value := by
  unfold conditionsFor at h ⊢
  dsimp only at h ⊢
  split
  · rfl
  · rename_i hfound
    rw [if_neg hfound] at h
    have hasked := askConstraints_congr_oracle (a := a) (o := o) label facts
      (facts.policyNames.filter p.resolvedNames.contains) p.content (h _ (by
        simp only [Traced.value_bind, Traced.value_pure, questions_askConstraints,
          List.mem_singleton]))
    simp only [Traced.value_bind]
    rw [hasked]

variable (d : Disk) (r : Resolver) (label path : String) (facts : ControllerFacts)
  (cache : TextCache)

theorem foundResources_congr_oracle
    (h : ∀ q ∈ (foundResources a d r label path facts cache).1.2.questions,
      a.oracle.AgreeOn o q) :
    foundResources { a with oracle := o } d r label path facts cache =
      foundResources a d r label path facts cache := by
  unfold foundResources resourcesOf at h ⊢
  dsimp only at h ⊢
  split
  · rfl
  · rename_i huses
    rw [if_neg huses] at h
    have hentities := entitiesFor_congr_oracle label facts
      ((resolveService d r facts (some path)).run cache).1 h
    exact congrArg (fun found =>
      ((((resolveService d r facts (some path)).run cache).1.serviceName, found),
        ((resolveService d r facts (some path)).run cache).2)) hentities

theorem foundConditions_congr_oracle
    (hresources : ∀ q ∈ (foundResources a d r label path facts cache).1.2.questions,
      a.oracle.AgreeOn o q)
    (h : ∀ q ∈ (foundConditions a d r label path facts cache).questions, a.oracle.AgreeOn o q) :
    foundConditions { a with oracle := o } d r label path facts cache =
      foundConditions a d r label path facts cache := by
  unfold foundConditions at h ⊢
  -- the search for policies starts from the texts that the search for the service left
  rw [foundResources_congr_oracle d r label path facts cache hresources]
  unfold conditionsOf at h ⊢
  split
  · rfl
  · rename_i hused
    rw [if_neg hused] at h
    exact conditionsFor_congr_oracle label facts _ h

/-- Of an oracle only the answers to the questions of a controller count for it. -/
theorem contributionOf_congr_oracle
    (h : ∀ q ∈ ((contributionOf a d r label path facts).run cache).value.1.questions,
      a.oracle.AgreeOn o q) :
    ((contributionOf { a with oracle := o } d r label path facts).run cache).value.1 =
      ((contributionOf a d r label path facts).run cache).value.1 := by
  by_cases hm : facts.methods = []
  · rw [contributionOf_eq_of_methods_nil _ _ _ _ _ _ _ hm,
      contributionOf_eq_of_methods_nil _ _ _ _ _ _ _ hm]
  · rw [contributionOf_eq _ _ _ _ _ _ _ hm] at h ⊢
    rw [contributionOf_eq _ _ _ _ _ _ _ hm]
    -- the questions of a controller are those about its service and those about its policies
    have hresources := fun q hq => h q (List.mem_append_left _ hq)
    have hconditions := fun q hq => h q (List.mem_append_right _ hq)
    unfold assembledFacts
    rw [foundResources_congr_oracle d r label path facts cache hresources,
      foundConditions_congr_oracle d r label path facts cache hresources hconditions]

/-- Of an oracle only the answers to the questions of a controller count for it. -/
theorem contribution_congr_oracle
    (h : ∀ q ∈ ((contribution a d r path).run cache).value.1.questions, a.oracle.AgreeOn o q) :
    ((contribution { a with oracle := o } d r path).run cache).value.1 =
      ((contribution a d r path).run cache).value.1 := by
  cases hsource : readText? d r.project path with
  | none =>
      rw [contribution_eq_of_readText?_none _ _ _ _ _ hsource,
        contribution_eq_of_readText?_none _ _ _ _ _ hsource]
  | some source =>
      rw [contribution_eq _ _ _ _ _ hsource] at h ⊢
      rw [contribution_eq _ _ _ _ _ hsource]
      exact contributionOf_congr_oracle d r (projectRelative (d.absolute r.project) path) path
        (extractFacts a.isVerbose source).value cache h

end Agreement

/-! ## A controller by itself -/

/-- What the controller at a path contributes when it is analysed by itself. -/
def Audit.alone (a : Audit) (d : Disk) (project path : String) : Contribution :=
  ((contribution a d (Resolver.usual project) path).run []).value.1

/-- Of an oracle only the answers to the questions of a controller count for it. -/
theorem alone_congr_oracle (a : Audit) (d : Disk) {o : Oracle} (project path : String)
    (h : ∀ q ∈ (a.alone d project path).questions, a.oracle.AgreeOn o q) :
    { a with oracle := o }.alone d project path = a.alone d project path :=
  contribution_congr_oracle d (Resolver.usual project) path [] h

/-- An audit with another oracle. -/
def Audit.asking (a : Audit) (o : Oracle) : Audit :=
  { a with oracle := o }

/-- An audit whose resources are paths, with an oracle that has no answers. -/
def plainAudit : Audit where
  place := "/x"
  exclusions := .ok []
  usesBasePath := true
  completeness := .allFacts
  isVerbose := false
  oracle := Oracle.fixed [] []

end RoleAudit
