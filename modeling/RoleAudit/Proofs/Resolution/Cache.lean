import RoleAudit.Audit.Contribution
import RoleAudit.Proofs.Resolution.Consults

/-!
# Kept texts

A resolver keeps the texts that it has read. On one disk this cannot be seen:

- `CacheSound`: what is kept for a path is what the disk holds there;
- `Consults.value_of_cacheSound`: so a search gives what the texts on the disk make of it;
- `Steady`: a step gives one value with any sound cache, and leaves a sound one;
- `Transparent`: a search is steady, with `transparent_resolveService` and
  `transparent_resolvePolicies` for both searches;
- `resolveService_of_cacheSound`, `groups_of_cacheSound`: where the files of a controller are said to
  be;
- `Settled`: an analysis is steady, with `settled_contribution` for a whole controller.
-/

namespace RoleAudit

/-- What is kept for a path is what the disk holds there. -/
def CacheSound (d : Disk) (r : Resolver) (cache : TextCache) : Prop :=
  ∀ path text, cache.lookup path = some text → text = readText? d r.project path

theorem cacheSound_nil (d : Disk) (r : Resolver) : CacheSound d r [] := by
  intro path text h
  simp at h

/-- With a sound cache a search meets what the disk holds. -/
theorem held_of_cacheSound {d : Disk} {r : Resolver} {cache : TextCache}
    (h : CacheSound d r cache) : held d r.project cache = readText? d r.project := by
  funext path
  unfold held
  cases hkept : cache.lookup path with
  | none => rfl
  | some text => exact h path text hkept

namespace Consults

variable {d : Disk} {r : Resolver} {s : StateM TextCache α} {answer : Texts → α}
  {opened : Texts → List String} {cache : TextCache}

/-- With a sound cache a search gives what the texts on the disk make of it. -/
theorem value_of_cacheSound (h : Consults d r.project s answer opened)
    (hcache : CacheSound d r cache) : (s.run cache).1 = answer (readText? d r.project) := by
  rw [h.value, held_of_cacheSound hcache]

/-- A search keeps what the disk holds. -/
theorem cacheSound_run (h : Consults d r.project s answer opened) (hcache : CacheSound d r cache) :
    CacheSound d r (s.run cache).2 := by
  intro path text hpath
  rw [h.kept, held_of_cacheSound hcache] at hpath
  split at hpath
  · exact (Option.some.inj hpath).symm
  · exact hcache path text hpath

end Consults

/-! ## Reading through kept texts -/

/-- A step gives one value with any sound cache, and leaves a sound one. -/
def Steady (d : Disk) (r : Resolver) (step : TextCache → α × TextCache) : Prop :=
  ∃ value, ∀ cache, CacheSound d r cache →
    (step cache).1 = value ∧ CacheSound d r (step cache).2

namespace Steady

variable {d : Disk} {r : Resolver} {step : TextCache → α × TextCache}

theorem pure (a : α) : Steady d r fun cache => (a, cache) :=
  ⟨a, fun _ h => ⟨rfl, h⟩⟩

/-- A step that starts with what another one leaves is as steady as both. -/
theorem bind {next : α → TextCache → β × TextCache} (hstep : Steady d r step)
    (hnext : ∀ a, Steady d r (next a)) :
    Steady d r fun cache => next (step cache).1 (step cache).2 := by
  rcases hstep with ⟨a, ha⟩
  rcases hnext a with ⟨b, hb⟩
  refine ⟨b, fun cache h => ?_⟩
  rcases ha cache h with ⟨hvalue, hsound⟩
  -- the second step is the one for the value of the first, whatever the cache was
  have hrest := hb _ hsound
  rw [← hvalue] at hrest
  exact hrest

/-- The value is the one that a fresh cache gives. -/
theorem value_eq (hstep : Steady d r step) {cache : TextCache} (h : CacheSound d r cache) :
    (step cache).1 = (step []).1 := by
  rcases hstep with ⟨value, hvalue⟩
  rw [(hvalue cache h).1, (hvalue [] (cacheSound_nil d r)).1]

/-- What is left is sound. -/
theorem sound (hstep : Steady d r step) {cache : TextCache} (h : CacheSound d r cache) :
    CacheSound d r (step cache).2 := by
  rcases hstep with ⟨value, hvalue⟩
  exact (hvalue cache h).2

end Steady

/-! ## Searches -/

/-- A search is steady. -/
def Transparent (d : Disk) (r : Resolver) (s : StateM TextCache α) : Prop :=
  Steady d r s.run

/-- A search that depends on the disk through the texts that it opens is steady. -/
theorem Consults.transparent {d : Disk} {r : Resolver} {s : StateM TextCache α}
    {answer : Texts → α} {opened : Texts → List String} (h : Consults d r.project s answer opened) :
    Transparent d r s := by
  refine ⟨answer (readText? d r.project), fun cache hcache => ?_⟩
  exact ⟨h.value_of_cacheSound hcache, h.cacheSound_run hcache⟩

section Searches

variable (d : Disk) (r : Resolver) (facts : ControllerFacts) (controllerPath : Option String)

theorem transparent_resolveService :
    Transparent d r (resolveService d r facts controllerPath) :=
  (consults_resolveService d r facts controllerPath).transparent

theorem transparent_resolvePolicies :
    Transparent d r (resolvePolicies d r facts controllerPath) :=
  (consults_resolvePolicies d r facts controllerPath).transparent

variable {cache : TextCache}

/-- The service that is chosen is said to be where its file is found among the texts on the disk. -/
theorem resolveService_of_cacheSound (hcache : CacheSound d r cache) {property name : String}
    (hchosen : chosenService? facts = some (property, name)) :
    let s := ((resolveService d r facts controllerPath).run cache).1
    s.serviceName = name ∧ s.importPath = ((serviceImports facts.imports).lookup name).getD "" ∧
      s.located = Lookup.find ⟨.service, facts, controllerPath⟩ d r (readText? d r.project) [name]
        s.importPath := by
  intro s
  have hs : s = serviceFrom facts
      (Lookup.find ⟨.service, facts, controllerPath⟩ d r (readText? d r.project)) :=
    (consults_resolveService d r facts controllerPath).value_of_cacheSound hcache
  rcases serviceFrom_of_chosen hchosen
    (Lookup.find ⟨.service, facts, controllerPath⟩ d r (readText? d r.project)) with
      ⟨hname, himport, hlocated⟩
  rw [hs]
  refine ⟨hname, himport, ?_⟩
  rw [hlocated, himport]

/-- Each group of policies is said to be where its file is found among the texts on the disk. -/
theorem groups_of_cacheSound (hcache : CacheSound d r cache) :
    ((resolvePolicies d r facts controllerPath).run cache).1.groups =
      (policyGroups facts.imports).map fun group => ⟨group.1, group.2,
        Lookup.find ⟨.policy, facts, controllerPath⟩ d r (readText? d r.project) group.2
          group.1⟩ := by
  rw [(consults_resolvePolicies d r facts controllerPath).value_of_cacheSound hcache,
    groups_policiesFound]

end Searches

/-! ## Analyses -/

/-- An analysis is steady but for its log. -/
def Settled (d : Disk) (r : Resolver) (x : Analysing α) : Prop :=
  Steady d r fun cache => (x.run cache).value

namespace Settled

variable {d : Disk} {r : Resolver}

theorem pure (a : α) : Settled d r (Pure.pure a) :=
  Steady.pure a

theorem bind {x : Analysing α} {f : α → Analysing β} (hx : Settled d r x)
    (hf : ∀ a, Settled d r (f a)) : Settled d r (x >>= f) :=
  Steady.bind hx hf

theorem reporting (t : Traced α) : Settled d r (RoleAudit.reporting t) :=
  Steady.pure t.value

theorem lookingUp {s : StateM TextCache α} (hs : Transparent d r s) :
    Settled d r (RoleAudit.lookingUp s) :=
  hs

end Settled

section Analyses

variable (a : Audit) (d : Disk) (r : Resolver)

theorem settled_resourcesOf (label path : String) (facts : ControllerFacts) :
    Settled d r (resourcesOf a d r label path facts) := by
  unfold resourcesOf
  split
  · exact Settled.pure _
  · refine (Settled.lookingUp (transparent_resolveService d r facts _)).bind fun service => ?_
    refine (Settled.reporting _).bind fun _ => ?_
    exact (Settled.reporting _).bind fun _ => Settled.pure _

theorem settled_conditionsOf (label path : String) (facts : ControllerFacts) :
    Settled d r (conditionsOf a d r label path facts) := by
  unfold conditionsOf
  split
  · exact Settled.pure _
  · refine (Settled.lookingUp (transparent_resolvePolicies d r facts _)).bind fun policies => ?_
    exact (Settled.reporting _).bind fun _ => Settled.reporting _

theorem settled_contributionOf (label path : String) (facts : ControllerFacts) :
    Settled d r (contributionOf a d r label path facts) := by
  unfold contributionOf
  dsimp only
  split
  · exact (Settled.reporting _).bind fun _ => Settled.pure _
  · refine (settled_resourcesOf a d r label path facts).bind fun resources => ?_
    refine (settled_conditionsOf a d r label path facts).bind fun conditions => ?_
    refine (Settled.reporting _).bind fun permissions => ?_
    exact (Settled.reporting _).bind fun _ => Settled.pure _

theorem settled_contribution (path : String) : Settled d r (contribution a d r path) := by
  unfold contribution
  dsimp only
  cases readText? d r.project path with
  | none => exact Settled.pure _
  | some source =>
      exact (Settled.reporting _).bind fun facts => settled_contributionOf a d r _ path facts

end Analyses

end RoleAudit
