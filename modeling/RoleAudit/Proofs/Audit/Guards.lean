import RoleAudit.Proofs.Assembly
import RoleAudit.Proofs.Audit.Contribution

/-!
# Guarded endpoints

An endpoint with a policy is guarded. Its permissions carry the condition of the policy, and it has
none while the condition is unresolved, but two ways lead around this: a mark that constructs no
class counts as no policy, and an answer of blanks counts as resolved and is trimmed to nothing.

- `policyAnswers`: what the oracle says about the policies of a controller;
- `value_foundConditions`: the conditions of a controller are made of these answers;
- `Audit.contributed`, `Audit.partsOf`: what the facts of a controller make when it is analysed by
  itself, and the parts of its permissions; `Audit.partsAlone` takes the facts from a source;
- `guarded_unconditional_iff`: when a guarded endpoint has a permission without a condition.
-/

namespace RoleAudit

/-! ## Marks -/

/-- There is a nearest decorator if one has a name that is looked for. -/
theorem exists_nearest?_of_mem {names : List String} {window : List Decorator}
    (h : ∃ mark ∈ window, mark.name ∈ names) :
    ∃ mark, Decorator.nearest? names window = some mark := by
  rcases h with ⟨mark, hmark, hname⟩
  have hmem : mark ∈ window.filter fun d => names.contains d.name :=
    List.mem_filter.2 ⟨hmark, by simpa using hname⟩
  unfold Decorator.nearest?
  split
  · rename_i hnil
    rw [hnil] at hmem
    exact absurd hmem List.not_mem_nil
  · exact ⟨_, rfl⟩

/-- The nearest decorator is one of the window, with a name that is looked for. -/
theorem mem_of_nearest?_eq_some {names : List String} {window : List Decorator} {mark : Decorator}
    (h : Decorator.nearest? names window = some mark) : mark ∈ window ∧ mark.name ∈ names := by
  -- the later of two decorators is one of them
  have hfold : ∀ (rest : List Decorator) (best : Decorator),
      rest.foldl Decorator.later best ∈ best :: rest := by
    intro rest
    induction rest with
    | nil => exact fun best => List.mem_singleton_self best
    | cons d rest ih =>
        intro best
        rw [List.foldl_cons]
        rcases List.mem_cons.1 (ih (Decorator.later best d)) with hbest | hrest
        · rw [hbest]
          unfold Decorator.later
          split <;> simp
        · exact List.mem_cons_of_mem best (List.mem_cons_of_mem d hrest)
  have hmem : mark ∈ window.filter fun d => names.contains d.name := by
    unfold Decorator.nearest? at h
    split at h
    · cases h
    · rename_i d rest hfilter
      rw [hfilter]
      exact Option.some.inj h ▸ hfold rest d
  rcases List.mem_filter.1 hmem with ⟨hwindow, hname⟩
  exact ⟨hwindow, by simpa using hname⟩

/-- An endpoint has the policy that its nearest mark constructs first. -/
theorem policy_ofMethod (m : MethodFound) {window : List Decorator} {mark : Decorator}
    (h : Decorator.nearest? policyMarks window = some mark) :
    (Endpoint.ofMethod m window).policy = mark.constructed.head?.getD "" := by
  unfold Endpoint.ofMethod
  dsimp only
  rw [h]
  rfl

/-- The first endpoint of a name comes from the first method that is marked under it. -/
theorem find?_endpointsOf {body : Syntax.Node} {name : String} {m : MethodFound}
    {window : List Decorator}
    (h : (markedMethods body).find? (fun marked => marked.1.name == name) = some (m, window)) :
    (endpointsOf body).find? (fun e => e.name == name) = some (Endpoint.ofMethod m window) := by
  unfold endpointsOf
  rw [List.find?_map]
  have hsame : ((fun e : Endpoint => e.name == name) ∘
      fun marked : MethodFound × List Decorator => Endpoint.ofMethod marked.1 marked.2) =
      fun marked => marked.1.name == name := rfl
  rw [hsame, h]
  rfl

/-- The facts of a tree are those of the class that is selected in it. -/
theorem endpoints_ofTree {root : Syntax.Node} {c : ClassFound}
    (h : selected? (classes root) = some c) :
    (ControllerFacts.ofTree root).endpoints = endpointsOf c.body := by
  unfold ControllerFacts.ofTree
  rw [h]
  rfl

/-! ## Answers about policies -/

/-- What the oracle says about the policies of a controller that were found. -/
def policyAnswers (a : Audit) (facts : ControllerFacts) (p : PolicyResolution) : Answers :=
  let found := facts.policyNames.filter p.resolvedNames.contains
  if found.isEmpty then []
  else
    match (a.oracle.constraints found (policyUses facts) p.content).value with
    | .error _ => []
    | .ok answers => given answers

theorem value_askConstraints (a : Audit) (label : String) (facts : ControllerFacts)
    (found : List String) (content : String) :
    (askConstraints a label facts found content).value.value =
      match (a.oracle.constraints found (policyUses facts) content).value with
      | .error _ => []
      | .ok answers => given answers := by
  unfold askConstraints
  rw [Traced.value_bind]
  cases (a.oracle.constraints found (policyUses facts) content).value <;> rfl

theorem value_conditionsFor (a : Audit) (label : String) (facts : ControllerFacts)
    (p : PolicyResolution) :
    (conditionsFor a label facts p).value.value =
      constraintMappings facts (policyAnswers a facts p) := by
  unfold conditionsFor policyAnswers
  dsimp only
  split
  · rfl
  · rw [Traced.value_bind, Traced.value_pure, value_askConstraints]

/-- The conditions of a controller are what is found about its policies, even if it uses none. -/
theorem foundConditions_eq (a : Audit) (d : Disk) (r : Resolver) (label path : String)
    (facts : ControllerFacts) {cache : TextCache} (h : CacheSound d r cache) :
    foundConditions a d r label path facts cache =
      (conditionsFor a label facts ((resolvePolicies d r facts (some path)).run []).1).value := by
  have hcache : CacheSound d r (foundResources a d r label path facts cache).2 :=
    (settled_resourcesOf a d r label path facts).sound h
  have hpolicies := (transparent_resolvePolicies d r facts (some path)).value_eq hcache
  unfold foundConditions conditionsOf
  -- without policies nothing is asked, and no endpoint looks for an answer
  by_cases hnone : facts.policyNames.isEmpty
  · have hnames : facts.policyNames = [] := List.isEmpty_iff.1 hnone
    simp [hnames, conditionsFor, noteNames]
  · rw [if_neg hnone, ← hpolicies]
    rfl

/-- The conditions of a controller are made of the answers about its policies. -/
theorem value_foundConditions (a : Audit) (d : Disk) (r : Resolver) (label path : String)
    (facts : ControllerFacts) {cache : TextCache} (h : CacheSound d r cache) :
    (foundConditions a d r label path facts cache).value =
      constraintMappings facts
        (policyAnswers a facts ((resolvePolicies d r facts (some path)).run []).1) := by
  rw [foundConditions_eq a d r label path facts h, value_conditionsFor]

/-! ## Permissions of a guarded endpoint -/

/-- What a controller with these facts contributes when it is analysed by itself. -/
def Audit.contributed (a : Audit) (d : Disk) (project path : String) (facts : ControllerFacts) :
    Contribution :=
  ((contributionOf a d (Resolver.usual project) (projectRelative (d.absolute project) path) path
    facts).run []).value.1

/-- The parts of its permissions. -/
def Audit.partsOf (a : Audit) (d : Disk) (project path : String) (facts : ControllerFacts) :
    MethodFacts :=
  assembledFacts a d (Resolver.usual project) (projectRelative (d.absolute project) path) path
    facts []

/-- What the oracle says about its policies. -/
def Audit.answersOf (a : Audit) (d : Disk) (project path : String) (facts : ControllerFacts) :
    Answers :=
  policyAnswers a facts ((resolvePolicies d (Resolver.usual project) facts (some path)).run []).1

/-- The parts of the permissions of a controller that is analysed by itself. -/
def Audit.partsAlone (a : Audit) (d : Disk) (project path source : String) : MethodFacts :=
  a.partsOf d project path (ControllerFacts.ofSource source)

/-- What the oracle says about the policies of a controller that is analysed by itself. -/
def Audit.answersAlone (a : Audit) (d : Disk) (project path source : String) : Answers :=
  a.answersOf d project path (ControllerFacts.ofSource source)

theorem value_extractFacts (debug : Bool) (source : String) :
    (extractFacts debug source).value = ControllerFacts.ofSource source := by
  unfold extractFacts ControllerFacts.ofSource
  simp only [Traced.value_bind, Traced.value_pure]

/-- A controller contributes what the facts of its source do. -/
theorem alone_eq_contributed (a : Audit) (d : Disk) {project path source : String}
    (hread : readText? d project path = some source) :
    a.alone d project path = a.contributed d project path (ControllerFacts.ofSource source) := by
  have hproject : (Resolver.usual project).project = project := rfl
  unfold Audit.alone Audit.contributed
  rw [contribution_eq a d (Resolver.usual project) path [] hread, value_extractFacts, hproject]

/-- The permissions of a controller with endpoints are those of its parts. -/
theorem permissions_contributed (a : Audit) (d : Disk) (project path : String)
    {facts : ControllerFacts} (hmethods : facts.methods ≠ []) :
    (a.contributed d project path facts).permissions =
      (a.partsOf d project path facts).permissions a.completeness := by
  unfold Audit.contributed Audit.partsOf
  rw [contributionOf_eq _ _ _ _ _ _ _ hmethods, Contribution.permissions, Option.map_some,
    Option.getD_some]

theorem permissions_alone (a : Audit) (d : Disk) {project path source : String}
    (hread : readText? d project path = some source)
    (hmethods : (ControllerFacts.ofSource source).methods ≠ []) :
    (a.alone d project path).permissions =
      (a.partsAlone d project path source).permissions a.completeness := by
  rw [alone_eq_contributed a d hread, permissions_contributed a d project path hmethods]
  rfl

/-- The condition of a method of a controller, while its policy has to be resolved. -/
theorem conditionOf?_partsOf (a : Audit) (d : Disk) (project path : String)
    (facts : ControllerFacts) (name : String) :
    (a.partsOf d project path facts).conditionOf? .allFacts name =
      ((facts.endpoints.find? fun e => e.name == name).bind fun e =>
        conditionFor (a.answersOf d project path facts) e.policy).map Text.strip := by
  have hconditions := value_foundConditions a d (Resolver.usual project)
    (projectRelative (d.absolute project) path) path facts
    (cacheSound_nil d (Resolver.usual project))
  unfold MethodFacts.conditionOf? Audit.partsOf assembledFacts lookup?
  dsimp only
  rw [hconditions, lookup_constraintMappings]
  cases hfound : facts.endpoints.find? fun e => e.name == name with
  | none => rfl
  | some e =>
      dsimp only [Option.map_some, Option.join, Option.bind]
      unfold Audit.answersOf
      cases conditionFor _ e.policy <;> rfl

/-- A condition is trimmed to nothing without a policy, and when its text is blank. -/
theorem conditionFor_strip_eq_empty_iff (constraints : List (String × String)) (policy : String) :
    (conditionFor constraints policy).map Text.strip = some "" ↔
      policy = "" ∨ ∃ text, lookup? constraints policy = some text ∧ Text.strip text = "" := by
  unfold conditionFor
  by_cases hpolicy : policy = ""
  · subst hpolicy
    simp
  · have hfalse : policy.isEmpty = false := by simpa [String.isEmpty_iff] using hpolicy
    rw [hfalse, or_iff_right hpolicy, Option.map_eq_some_iff]
    exact Iff.rfl

/--
A guarded endpoint has a permission without a condition exactly if it lacks nothing else and its
nearest mark constructs no class, or the oracle answers its class with blanks. This is said of the
facts of any tree; a controller of a project contributes what the tree of its source does.
-/
theorem guarded_unconditional_iff (a : Audit) (d : Disk) (project path name : String)
    (root : Syntax.Node) (c : ClassFound) (m : MethodFound) (window : List Decorator)
    (hcomplete : a.completeness = .allFacts)
    (hclass : selected? (classes root) = some c)
    (hfirst : (markedMethods c.body).find? (fun marked => marked.1.name == name) =
      some (m, window))
    (hguarded : ∃ mark ∈ window, mark.name ∈ policyMarks) :
    let facts := ControllerFacts.ofTree root
    let parts := a.partsOf d project path facts
    (∀ source, readText? d project path = some source → Syntax.Node.ofSource source = root →
      a.alone d project path = a.contributed d project path facts) ∧
    (a.contributed d project path facts).permissions =
      parts.methods.flatMap (parts.permissionsOf .allFacts) ∧
      name ∈ parts.methods ∧
      ((∃ p ∈ parts.permissionsOf .allFacts name, p.condition = "") ↔
        parts.Grants name ∧
          ∃ mark, Decorator.nearest? policyMarks window = some mark ∧
            (mark.constructed.head?.getD "" = "" ∨
              ∃ text, lookup? (a.answersOf d project path facts)
                (mark.constructed.head?.getD "") = some text ∧ Text.strip text = "")) := by
  have hendpoint : (ControllerFacts.ofTree root).endpoints.find? (fun e => e.name == name) =
      some (Endpoint.ofMethod m window) := by
    rw [endpoints_ofTree hclass]
    exact find?_endpointsOf hfirst
  have hnamed : name ∈ (ControllerFacts.ofTree root).methods := by
    refine List.mem_map.2 ⟨_, List.mem_of_find?_eq_some hendpoint, ?_⟩
    simpa using List.find?_some hendpoint
  rcases exists_nearest?_of_mem hguarded with ⟨mark, hmark⟩
  -- what a source contributes, the permissions, the method among them, and the exact condition
  refine ⟨?_, ?_, ?_, ?_⟩
  · rintro source hread rfl
    exact alone_eq_contributed a d hread
  · rw [permissions_contributed a d project path (List.ne_nil_of_mem hnamed), hcomplete]
    rfl
  · refine (mem_keysOf _ _).2 (List.mem_append_left _ (List.mem_append_left _
      (List.mem_append_left _ ?_)))
    have hroles : (a.partsOf d project path (ControllerFacts.ofTree root)).roles =
        (ControllerFacts.ofTree root).roles := rfl
    rw [hroles, ControllerFacts.roles, List.map_map]
    exact hnamed
  · rw [MethodFacts.exists_unconditional_iff, conditionOf?_partsOf, hendpoint]
    dsimp only [Option.bind]
    rw [policy_ofMethod m hmark, conditionFor_strip_eq_empty_iff]
    refine and_congr_right fun _ => ⟨fun h => ⟨mark, hmark, h⟩, ?_⟩
    rintro ⟨other, hother, h⟩
    rw [hmark, Option.some.injEq] at hother
    exact hother ▸ h

/-- A controller whose mark constructs no class. -/
def nakedSource : String :=
  "@Controller('x')class A\x7b@Get()@Roles('R')@CheckPolicies(P)l()\x7b\x7d\x7d"

/-- A disk with this controller. -/
def nakedDisk : Disk :=
  ⟨[(["a"], .file (Text.encodeUtf8 nakedSource))], []⟩

theorem guarded_unconditional_iff_nakedSource :
    ∃ p ∈ (plainAudit.alone nakedDisk "/" "/a").permissions, p.condition = "" := by
  have hread : readText? nakedDisk "/" "/a" = some nakedSource := by decide +kernel
  -- the policy is named in its decorator without being constructed
  have hmarked : ((selected? (classes (Syntax.Node.ofSource nakedSource))).bind fun c =>
      (markedMethods c.body).find? fun marked => marked.1.name == "l").map
        (fun marked => (Decorator.nearest? policyMarks marked.2).map (·.constructed)) =
      some (some []) := by
    decide +kernel
  have hgrants : (plainAudit.partsAlone nakedDisk "/" "/a" nakedSource).Grants "l" := by
    unfold MethodFacts.Grants
    decide +kernel
  rcases Option.map_eq_some_iff.1 hmarked with ⟨⟨m, window⟩, hfound, hnearest⟩
  rcases Option.bind_eq_some_iff.1 hfound with ⟨c, hclass, hfirst⟩
  rcases Option.map_eq_some_iff.1 hnearest with ⟨mark, hmark, hconstructed⟩
  have hguarded : ∃ mark ∈ window, mark.name ∈ policyMarks :=
    ⟨mark, mem_of_nearest?_eq_some hmark⟩
  rcases guarded_unconditional_iff plainAudit nakedDisk "/" "/a" "l"
    (Syntax.Node.ofSource nakedSource) c m window rfl hclass hfirst hguarded with
    ⟨hsource, hpermissions, hmethod, hiff⟩
  rcases hiff.2 ⟨hgrants, mark, hmark, Or.inl (by rw [hconstructed]; rfl)⟩ with ⟨p, hp, hcondition⟩
  refine ⟨p, ?_, hcondition⟩
  rw [hsource nakedSource hread rfl, hpermissions]
  exact List.mem_flatMap.2 ⟨"l", hmethod, hp⟩

end RoleAudit
