import RoleAudit.Resolution.Resolver

/-!
# Texts that a search consults

A search depends on the disk only through the texts of the files that it opens, and it keeps these:

- `untilFound`: what a search goes through, up to its first result;
- `Strategies.foundIn`, `Strategies.openedIn`: what is found with given texts, and what is opened
  for it;
- `held`: the text that a search meets at a path, kept or on the disk;
- `Consults`: what a search gives is a function of the texts at the paths that it opens, and just
  these texts are kept, with a rule for each way to put searches together;
- `Lookup.answer`, `Lookup.opened`: what a lookup comes to with given texts, and which of them it
  opens; `consults_run`: this is what it does.
-/

namespace RoleAudit

variable {α β : Type}

/-- What stands at each path, if it is a file. -/
abbrev Texts := String → Option String

/-! ## Searches on texts -/

/-- What a search goes through, up to its first result. -/
def untilFound (f : α → Option β) : List α → List α
  | [] => []
  | a :: rest => a :: if (f a).isSome then [] else untilFound f rest

theorem findSome?_cons_eq_or (f : α → Option β) (a : α) (rest : List α) :
    (a :: rest).findSome? f = (f a).or (rest.findSome? f) := by
  rw [← List.singleton_append, List.findSome?_append, List.findSome?_singleton]

/-- The path and the text there, if the text is accepted for all classes. -/
def fitIn? (texts : Texts) (names : List String) (accepts : String → String → Bool)
    (path : String) : Option (String × String) :=
  (texts path).bind fun text => if names.all (accepts text) then some (path, text) else none

namespace Strategies

/-- The first candidate that the first matcher accepts which accepts one. -/
def foundIn (s : Strategies) (texts : Texts) (c : LookupContext) : Option (String × String) :=
  s.matchers.findSome? fun accepts =>
    (proposals s.locators c).findSome? (fitIn? texts c.classNames accepts)

/-- A file is found exactly if some matcher accepts the text of some candidate for all classes. -/
theorem isSome_foundIn_iff (s : Strategies) (texts : Texts) (c : LookupContext) :
    (s.foundIn texts c).isSome = true ↔ ∃ accepts ∈ s.matchers, ∃ path ∈ proposals s.locators c,
      ∃ text, texts path = some text ∧ ∀ name ∈ c.classNames, accepts text name = true := by
  have hfit : ∀ accepts path, (fitIn? texts c.classNames accepts path).isSome = true ↔
      ∃ text, texts path = some text ∧ ∀ name ∈ c.classNames, accepts text name = true := by
    intro accepts path
    unfold fitIn?
    cases texts path with
    | none => simp
    | some text =>
        rw [Option.bind_some, Option.isSome_ite, List.all_eq_true]
        simp
  unfold foundIn
  simp only [List.findSome?_isSome_iff, hfit]

/-- The candidates that are opened for this, matcher by matcher. -/
def openedIn (s : Strategies) (texts : Texts) (c : LookupContext) : List String :=
  let row := fun accepts => fitIn? texts c.classNames accepts
  (untilFound (fun accepts => (proposals s.locators c).findSome? (row accepts)) s.matchers).flatMap
    fun accepts => untilFound (row accepts) (proposals s.locators c)

/-- Whatever the texts are, the first candidate is opened. -/
theorem mem_openedIn_of_head {s : Strategies} {texts : Texts} {c : LookupContext} {path : String}
    (hpath : (proposals s.locators c).head? = some path) (hmatchers : s.matchers ≠ []) :
    path ∈ s.openedIn texts c := by
  rcases List.head?_eq_some_iff.1 hpath with ⟨rest, hcandidates⟩
  rcases List.exists_cons_of_ne_nil hmatchers with ⟨accepts, others, hfirst⟩
  unfold openedIn
  rw [hcandidates, hfirst]
  exact List.mem_flatMap.2 ⟨accepts, List.mem_cons_self, List.mem_cons_self⟩

/-- How the search for a file ends with given texts. -/
def locatedIn (s : Strategies) (texts : Texts) (c : LookupContext) : Located :=
  ⟨s.foundIn texts c, proposals s.locators c⟩

end Strategies

/-! ## What a search reads and keeps -/

/-- The text that a search meets at a path: the one that is kept, or else the one on the disk. -/
def held (d : Disk) (project : String) (cache : TextCache) : Texts := fun path =>
  (cache.lookup path).getD (readText? d project path)

/--
What a search gives is a function of the texts that it meets. It opens some of the paths: it keeps
what it meets there, and what stands at other paths makes no difference.
-/
structure Consults (d : Disk) (project : String) (s : StateM TextCache α) (answer : Texts → α)
    (opened : Texts → List String) : Prop where
  value : ∀ cache, (s.run cache).1 = answer (held d project cache)
  kept : ∀ cache path, (s.run cache).2.lookup path =
    if path ∈ opened (held d project cache) then some (held d project cache path)
    else cache.lookup path
  reads : ∀ texts others, (∀ path ∈ opened texts, others path = texts path) →
    answer others = answer texts ∧ opened others = opened texts

namespace Consults

variable {d : Disk} {project : String} {s : StateM TextCache α} {answer : Texts → α}
  {opened : Texts → List String}

/-- A search changes none of the texts that are met. -/
theorem held_run (h : Consults d project s answer opened) (cache : TextCache) :
    held d project (s.run cache).2 = held d project cache := by
  funext path
  have hkept := h.kept cache path
  unfold held at hkept ⊢
  rw [hkept]
  split
  · rfl
  · rfl

theorem pure (a : α) : Consults d project (Pure.pure a) (fun _ => a) fun _ => [] where
  value _ := rfl
  kept _ _ := rfl
  reads _ _ _ := ⟨rfl, rfl⟩

/-- One search after another opens what both open. -/
theorem bind {f : α → StateM TextCache β} {answer' : α → Texts → β}
    {opened' : α → Texts → List String} (hs : Consults d project s answer opened)
    (hf : ∀ a, Consults d project (f a) (answer' a) (opened' a)) :
    Consults d project (s >>= f) (fun texts => answer' (answer texts) texts)
      fun texts => opened texts ++ opened' (answer texts) texts where
  value cache := by
    have hnext := (hf (s.run cache).1).value (s.run cache).2
    rw [hs.held_run, hs.value] at hnext
    have hrun : ((s >>= f).run cache).1 = ((f (s.run cache).1).run (s.run cache).2).1 := rfl
    rw [hrun, hs.value]
    exact hnext
  kept cache path := by
    have hnext := (hf (s.run cache).1).kept (s.run cache).2 path
    rw [hs.held_run, hs.kept cache path, hs.value] at hnext
    have hrun : ((s >>= f).run cache).2 = ((f (s.run cache).1).run (s.run cache).2).2 := rfl
    rw [hrun, hs.value, hnext]
    -- a path that both open has the same text for both
    by_cases hlater : path ∈ opened' (answer (held d project cache)) (held d project cache)
    · simp [hlater]
    · simp [hlater]
  reads texts others h := by
    have hfirst := hs.reads texts others fun path hpath => h path (List.mem_append_left _ hpath)
    have hnext := (hf (answer texts)).reads texts others fun path hpath =>
      h path (List.mem_append_right _ hpath)
    rw [hfirst.1, hfirst.2, hnext.1, hnext.2]
    exact ⟨rfl, rfl⟩

/-- The same answers and openings, said in another way. -/
theorem congr {answer' : Texts → α} {opened' : Texts → List String}
    (h : Consults d project s answer opened) (hanswer : ∀ texts, answer' texts = answer texts)
    (hopened : ∀ texts, opened' texts = opened texts) :
    Consults d project s answer' opened' := by
  rw [funext hanswer, funext hopened]
  exact h

/-- What a search gives is handed on in another form. -/
theorem map (h : Consults d project s answer opened) (g : α → β) :
    Consults d project (do return g (← s)) (fun texts => g (answer texts)) opened := by
  apply (h.bind fun a => Consults.pure (g a)).congr
  · intro texts
    rfl
  · intro texts
    exact (List.append_nil _).symm

/-- Searches one after the other. -/
theorem mapM {f : α → StateM TextCache β} {answer : α → Texts → β}
    {opened : α → Texts → List String}
    (hf : ∀ a, Consults d project (f a) (answer a) (opened a)) (items : List α) :
    Consults d project (items.mapM f) (fun texts => items.map fun a => answer a texts)
      fun texts => items.flatMap fun a => opened a texts := by
  induction items with
  | nil => exact Consults.pure []
  | cons a rest ih =>
      rw [List.mapM_cons]
      exact (hf a).bind fun b => ih.map (b :: ·)

end Consults

section Searches

variable (d : Disk) (project : String)

theorem consults_readKept (path : String) :
    Consults d project (readKept d project path) (fun texts => texts path) fun _ => [path] := by
  -- a text that is kept stays as it is, and one that is not is kept from now on
  have hrun : ∀ cache, (readKept d project path).run cache =
      (held d project cache path,
        if (cache.lookup path).isSome then cache
        else cache ++ [(path, readText? d project path)]) := by
    intro cache
    cases hkept : cache.lookup path with
    | some text =>
        simp only [readKept, StateT.run_bind, StateT.run_get, pure_bind, hkept, held]
        rfl
    | none =>
        simp only [readKept, StateT.run_bind, StateT.run_get, pure_bind, hkept, held]
        rfl
  constructor
  · intro cache
    rw [hrun]
  · intro cache p
    rw [hrun]
    dsimp only
    cases hkept : cache.lookup path with
    | some text =>
        by_cases hp : p = path
        · subst hp
          simp [held, hkept]
        · simp [hp]
    | none =>
        by_cases hp : p = path
        · subst hp
          simp [List.lookup_append, held, hkept]
        · simp [List.lookup_append, hp, List.lookup_cons, beq_false_of_ne hp]
  · intro texts others h
    exact ⟨h path List.mem_cons_self, rfl⟩

theorem consults_firstAccepted (accepts : String → String → Bool) (names paths : List String) :
    Consults d project (firstAccepted d project accepts names paths)
      (fun texts => paths.findSome? (fitIn? texts names accepts))
      fun texts => untilFound (fitIn? texts names accepts) paths := by
  induction paths with
  | nil => exact Consults.pure none
  | cons path rest ih =>
      -- the text at the path decides whether the search goes on
      have hnext : ∀ text? : Option String, Consults d project
          (text?.elim (firstAccepted d project accepts names rest) fun text =>
            if names.all (accepts text) then return some (path, text)
            else firstAccepted d project accepts names rest)
          (fun texts => (fitIn? (fun _ => text?) names accepts path).or
            (rest.findSome? (fitIn? texts names accepts)))
          fun texts => if (fitIn? (fun _ => text?) names accepts path).isSome then []
            else untilFound (fitIn? texts names accepts) rest := by
        intro text?
        cases text? with
        | none => exact ih
        | some text =>
            by_cases hall : names.all (accepts text) = true
            · simp only [fitIn?, Option.bind_some, Option.elim_some, hall, if_true,
                Option.isSome_some]
              exact Consults.pure _
            · simp only [fitIn?, Option.bind_some, Option.elim_some, hall]
              exact ih
      have hstep : firstAccepted d project accepts names (path :: rest) =
          readKept d project path >>= fun text? =>
            text?.elim (firstAccepted d project accepts names rest) fun text =>
              if names.all (accepts text) then return some (path, text)
              else firstAccepted d project accepts names rest := by
        rw [firstAccepted]
        refine bind_congr fun text? => ?_
        cases text? <;> rfl
      rw [hstep]
      apply ((consults_readKept d project path).bind hnext).congr
      · intro texts
        exact findSome?_cons_eq_or _ path rest
      · intro texts
        rfl

theorem consults_firstLocated (names paths : List String)
    (matchers : List (String → String → Bool)) :
    Consults d project (firstLocated d project names paths matchers)
      (fun texts => matchers.findSome? fun accepts =>
        paths.findSome? (fitIn? texts names accepts))
      fun texts =>
        (untilFound (fun accepts => paths.findSome? (fitIn? texts names accepts)) matchers).flatMap
          fun accepts => untilFound (fitIn? texts names accepts) paths := by
  induction matchers with
  | nil => exact Consults.pure none
  | cons accepts rest ih =>
      have hnext : ∀ found? : Option (String × String), Consults d project
          (found?.elim (firstLocated d project names paths rest) fun found => return some found)
          (fun texts => found?.or
            (rest.findSome? fun accepts => paths.findSome? (fitIn? texts names accepts)))
          fun texts => (if found?.isSome then [] else
            untilFound (fun accepts => paths.findSome? (fitIn? texts names accepts)) rest).flatMap
              fun accepts => untilFound (fitIn? texts names accepts) paths := by
        intro found?
        cases found? with
        | none => exact ih
        | some found => exact Consults.pure _
      -- the next matcher is asked only if the first one found nothing
      have hstep : firstLocated d project names paths (accepts :: rest) =
          firstAccepted d project accepts names paths >>= fun found? =>
            found?.elim (firstLocated d project names paths rest) fun found =>
              return some found := by
        rw [firstLocated]
        refine bind_congr fun found? => ?_
        cases found? <;> rfl
      rw [hstep]
      apply ((consults_firstAccepted d project accepts names paths).bind hnext).congr
      · intro texts
        exact findSome?_cons_eq_or _ accepts rest
      · intro texts
        rw [untilFound, List.flatMap_cons]

theorem consults_locate (s : Strategies) (c : LookupContext) :
    Consults d project (s.locate d project c) (fun texts => s.locatedIn texts c)
      fun texts => s.openedIn texts c :=
  (consults_firstLocated d project c.classNames (proposals s.locators c) s.matchers).map
    fun found => (⟨found, proposals s.locators c⟩ : Located)

end Searches

/-! ## Lookups -/

/-- What is known about a file that a controller uses. -/
def contextOf (r : Resolver) (facts : ControllerFacts) (controllerPath : Option String)
    (kind : FileKind) (names : List String) (importPath : String) : LookupContext where
  project := r.project
  kind := kind
  classNames := names
  importPath := importPath
  controllerDirectory := directoryOf controllerPath
  moduleName := Naming.moduleName facts.basePath

/-- What is said about the service of a controller, from what is found for it. -/
def serviceFrom (facts : ControllerFacts) (find : List String → String → Located) :
    ServiceResolution :=
  match chosenService? facts with
  | none => ⟨"", "", "", ⟨none, []⟩, [], some "Cannot find any service imports"⟩
  | some (property, name) =>
    let importPath := ((serviceImports facts.imports).lookup name).getD ""
    let located := find [name] importPath
    ⟨name, property, importPath, located,
      Text.sorted (Text.distinct ((facts.callsOn property).map (·.method))),
      if located.found.isSome then none else some s!"Cannot find service content for {name}"⟩

/-- What is said about the policies of a controller, from what is found for each path. -/
def policiesFound (facts : ControllerFacts) (find : List String → String → Located) :
    PolicyResolution :=
  match policyGroups facts.imports with
  | [] => ⟨[], some "Cannot find any policy imports"⟩
  | groups => ⟨groups.map fun (path, names) => ⟨path, names, find names path⟩, none⟩

/-- The service that is chosen is said to be where its file was found. -/
theorem serviceFrom_of_chosen {facts : ControllerFacts} {property name : String}
    (h : chosenService? facts = some (property, name)) (find : List String → String → Located) :
    (serviceFrom facts find).serviceName = name ∧
      (serviceFrom facts find).importPath =
        ((serviceImports facts.imports).lookup name).getD "" ∧
      (serviceFrom facts find).located =
        find [name] (((serviceImports facts.imports).lookup name).getD "") := by
  unfold serviceFrom
  rw [h]
  exact ⟨rfl, rfl, rfl⟩

/-- Each group of policies is said to be where its file was found. -/
theorem groups_policiesFound (facts : ControllerFacts) (find : List String → String → Located) :
    (policiesFound facts find).groups =
      (policyGroups facts.imports).map fun group => ⟨group.1, group.2, find group.2 group.1⟩ := by
  unfold policiesFound
  cases policyGroups facts.imports with
  | nil => rfl
  | cons group groups => rfl

/-- The files that a controller needs for its service, by their classes and their import's path. -/
def wantedServices (facts : ControllerFacts) : List (List String × String) :=
  (chosenService? facts).toList.map fun (_, name) =>
    ([name], ((serviceImports facts.imports).lookup name).getD "")

/-- The files that a controller needs for its policies. -/
def wantedPolicies (facts : ControllerFacts) : List (List String × String) :=
  (policyGroups facts.imports).map fun (path, names) => (names, path)

/-- What a resolver is asked for. -/
structure Lookup where
  kind : FileKind
  facts : ControllerFacts
  controllerPath : Option String

namespace Lookup

variable (l : Lookup) (d : Disk) (r : Resolver)

/-- What a resolver is asked for, carried out. -/
def run : StateM TextCache (ServiceResolution ⊕ PolicyResolution) :=
  match l.kind with
  | .service => return .inl (← resolveService d r l.facts l.controllerPath)
  | .policy => return .inr (← resolvePolicies d r l.facts l.controllerPath)

/-- What is known about a file that is wanted. -/
def context (names : List String) (importPath : String) : LookupContext :=
  contextOf r l.facts l.controllerPath l.kind names importPath

/-- The files that are wanted, by their classes and the path of the import. -/
def wanted : List (List String × String) :=
  match l.kind with
  | .service => wantedServices l.facts
  | .policy => wantedPolicies l.facts

/-- How the search for a wanted file ends with given texts. -/
def find (texts : Texts) (names : List String) (importPath : String) : Located :=
  (r.strategies d).locatedIn texts (l.context r names importPath)

theorem found_find (texts : Texts) (names : List String) (importPath : String) :
    (l.find d r texts names importPath).found =
      (r.strategies d).foundIn texts (l.context r names importPath) :=
  rfl

/-- What a lookup comes to with given texts. -/
def answer (texts : Texts) : ServiceResolution ⊕ PolicyResolution :=
  match l.kind with
  | .service => .inl (serviceFrom l.facts (l.find d r texts))
  | .policy => .inr (policiesFound l.facts (l.find d r texts))

/-- The paths that a lookup opens for this. -/
def opened (texts : Texts) : List String :=
  l.wanted.flatMap fun (names, importPath) =>
    (r.strategies d).openedIn texts (l.context r names importPath)

end Lookup

section Lookups

variable (d : Disk) (r : Resolver) (facts : ControllerFacts) (controllerPath : Option String)

theorem consults_resolveService :
    Consults d r.project (resolveService d r facts controllerPath)
      (fun texts => serviceFrom facts (Lookup.find ⟨.service, facts, controllerPath⟩ d r texts))
      (Lookup.opened ⟨.service, facts, controllerPath⟩ d r) := by
  unfold resolveService serviceFrom Lookup.opened Lookup.wanted wantedServices
  dsimp only
  cases chosenService? facts with
  | none => exact Consults.pure _
  | some service =>
      have hlocate := consults_locate d r.project (r.strategies d)
        (contextOf r facts controllerPath .service [service.2]
          (((serviceImports facts.imports).lookup service.2).getD ""))
      refine (hlocate.map _).congr (fun texts => ?_) fun texts => ?_
      · rfl
      · exact List.flatMap_singleton _ _

theorem consults_resolvePolicies :
    Consults d r.project (resolvePolicies d r facts controllerPath)
      (fun texts => policiesFound facts (Lookup.find ⟨.policy, facts, controllerPath⟩ d r texts))
      (Lookup.opened ⟨.policy, facts, controllerPath⟩ d r) := by
  -- one search for each group
  have hgroup : ∀ group : String × List String, Consults d r.project
      (resolveGroup d r facts controllerPath group.1 group.2)
      (fun texts => ⟨group.1, group.2,
        Lookup.find ⟨.policy, facts, controllerPath⟩ d r texts group.2 group.1⟩)
      fun texts => (r.strategies d).openedIn texts
        (Lookup.context ⟨.policy, facts, controllerPath⟩ r group.2 group.1) := by
    intro group
    have hlocate := consults_locate d r.project (r.strategies d)
      (Lookup.context ⟨.policy, facts, controllerPath⟩ r group.2 group.1)
    exact hlocate.map fun located => (⟨group.1, group.2, located⟩ : PolicyGroup)
  unfold resolvePolicies policiesFound Lookup.opened Lookup.wanted wantedPolicies
  dsimp only
  cases policyGroups facts.imports with
  | nil => exact Consults.pure _
  | cons group groups =>
      apply ((Consults.mapM hgroup (group :: groups)).map _).congr
      · intro texts
        rfl
      · intro texts
        rw [List.flatMap_map]

theorem consults_run (l : Lookup) :
    Consults d r.project (l.run d r) (l.answer d r) (l.opened d r) := by
  rcases l with ⟨kind, facts, controllerPath⟩
  cases kind with
  | service => exact (consults_resolveService d r facts controllerPath).map Sum.inl
  | policy => exact (consults_resolvePolicies d r facts controllerPath).map Sum.inr

end Lookups

end RoleAudit
