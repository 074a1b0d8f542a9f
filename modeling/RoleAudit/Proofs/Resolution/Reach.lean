import RoleAudit.Proofs.Resolution.Candidates

/-!
# How far a search reaches

A search checks its candidates and hands on the text of one of them. Which files these are for the
service and the policies of a controller:

- `Yields`: what holds of the result of a search with any sound cache;
- `foundAmong_foundIn`: what is found is one of the candidates, with its text;
- `Located.Follows`: a search has checked candidates only, and gives what the disk holds at one of
  them;
- `resolved_liesBelow_or_leaves`: what a resolver checks lies in the project, or is the end of a
  route of the source that leaves it.
-/

namespace RoleAudit

open RoleAudit.Path

/-! ## Results of searches -/

/-- With a sound cache a search leaves a sound one, and its result satisfies a fact. -/
def Yields (d : Disk) (r : Resolver) {α : Type} (s : StateM TextCache α) (fact : α → Prop) : Prop :=
  ∀ cache, CacheSound d r cache → CacheSound d r (s.run cache).2 ∧ fact (s.run cache).1

/-- A search yields what holds of the answer with the texts on the disk. -/
theorem Consults.yields {d : Disk} {r : Resolver} {α : Type} {s : StateM TextCache α}
    {answer : Texts → α} {opened : Texts → List String} {fact : α → Prop}
    (h : Consults d r.project s answer opened) (hfact : fact (answer (readText? d r.project))) :
    Yields d r s fact := by
  intro cache hcache
  rw [h.value_of_cacheSound hcache]
  exact ⟨h.cacheSound_run hcache, hfact⟩

section Searches

variable (d : Disk) (r : Resolver)

/-- What is found is one of the files, with the text that the disk holds there. -/
def FoundAmong (paths : List String) (found : Option (String × String)) : Prop :=
  ∀ path text, found = some (path, text) → path ∈ paths ∧ readText? d r.project path = some text

theorem foundAmong_foundIn (s : Strategies) (c : LookupContext) :
    FoundAmong d r (proposals s.locators c) (s.foundIn (readText? d r.project) c) := by
  intro path text hfound
  rcases List.exists_of_findSome?_eq_some hfound with ⟨accepts, -, hrow⟩
  rcases List.exists_of_findSome?_eq_some hrow with ⟨candidate, hcandidate, hfit⟩
  rcases Option.bind_eq_some_iff.1 hfit with ⟨content, hcontent, haccepted⟩
  split at haccepted
  · cases haccepted
    exact ⟨hcandidate, hcontent⟩
  · cases haccepted

/-- Only candidates were checked, and what was found is what the disk holds at one of them. -/
structure Located.Follows (c : LookupContext) (l : Located) : Prop where
  checked : ∀ q ∈ l.checked, q ∈ candidates d r.locators c
  found : FoundAmong d r l.checked l.found

theorem follows_locatedIn (c : LookupContext) :
    Located.Follows d r c ((r.strategies d).locatedIn (readText? d r.project) c) :=
  ⟨fun _ hq => hq, foundAmong_foundIn d r (r.strategies d) c⟩

end Searches

/-! ## The files of a controller -/

section Controllers

variable (d : Disk) (r : Resolver) (facts : ControllerFacts) (controllerPath : Option String)

theorem yields_resolveService :
    Yields d r (resolveService d r facts controllerPath) fun s =>
      s.located.Follows d r
        (contextOf r facts controllerPath .service [s.serviceName] s.importPath) := by
  apply (consults_resolveService d r facts controllerPath).yields
  unfold serviceFrom
  cases chosenService? facts with
  | none =>
      refine ⟨fun q hq => absurd hq List.not_mem_nil, ?_⟩
      rintro path text ⟨⟩
  | some service => exact follows_locatedIn d r _

theorem yields_resolvePolicies :
    Yields d r (resolvePolicies d r facts controllerPath) fun p => ∀ g ∈ p.groups,
      g.located.Follows d r (contextOf r facts controllerPath .policy g.names g.importPath) := by
  apply (consults_resolvePolicies d r facts controllerPath).yields
  rw [groups_policiesFound]
  intro g hg
  rcases List.mem_map.1 hg with ⟨group, -, rfl⟩
  exact follows_locatedIn d r _

/-- A file lies in the project, or a route of the source leaves the project and ends at it. -/
def InsideOrLeft (c : LookupContext) (q : String) : Prop :=
  d.LiesBelow c.project q ∨
    ∃ route ∈ c.openRoutes, ¬ route.KeepsBelow d c.project ∧ d.namesAt q = d.namesAt route.path

/--
What a resolver checks for the service and the policies of a controller inside the project lies in
the project, unless the path of an import or a class name with slashes leads out of it: it is
absolute, or goes up further than it starts below the project. What is handed on is what the disk
holds at a file that was checked.
-/
theorem resolved_liesBelow_or_leaves (cache : TextCache) (hd : d.IsPlaced)
    (hentries : ∀ entry ∈ d.entries, ∀ n ∈ entry.1, IsName n)
    (hdirectory : ∀ directory, directoryOf controllerPath = some directory → directory ≠ "" →
      d.LiesBelow r.project directory)
    (hcache : CacheSound d r cache) :
    let s := ((resolveService d r facts controllerPath).run cache).1
    let p := ((resolvePolicies d r facts controllerPath).run cache).1
    (∀ q ∈ s.located.checked, InsideOrLeft d
      (contextOf r facts controllerPath .service [s.serviceName] s.importPath) q) ∧
    FoundAmong d r s.located.checked s.located.found ∧
    ∀ g ∈ p.groups,
      (∀ q ∈ g.located.checked, InsideOrLeft d
        (contextOf r facts controllerPath .policy g.names g.importPath) q) ∧
      FoundAmong d r g.located.checked g.located.found := by
  intro s p
  have hinside : ∀ kind names importPath,
      (contextOf r facts controllerPath kind names importPath).IsInside d := fun _ _ _ =>
    ⟨Naming.not_mem_moduleName facts.basePath, hdirectory⟩
  have hfollows : ∀ {kind names importPath} {l : Located},
      l.Follows d r (contextOf r facts controllerPath kind names importPath) →
      ∀ q ∈ l.checked, InsideOrLeft d (contextOf r facts controllerPath kind names importPath) q :=
    fun h q hq => candidate_liesBelow_or_leaves hd hentries (hinside _ _ _) (h.checked q hq)
  have hservice := (yields_resolveService d r facts controllerPath cache hcache).2
  have hpolicies := (yields_resolvePolicies d r facts controllerPath cache hcache).2
  refine ⟨hfollows hservice, hservice.found, fun g hg => ?_⟩
  exact ⟨hfollows (hpolicies g hg), (hpolicies g hg).found⟩

end Controllers

/-- A class that imports a service from outside the project. -/
def climbingSource : String := "import\x7bService\x7dfrom'../../a';class A\x7b\x7d"

/-- What is said about this class. -/
def climbingFacts : ControllerFacts :=
  ⟨"A", "", [], [], [⟨"Service", "../../a"⟩]⟩

example : ControllerFacts.ofSource climbingSource = climbingFacts := by decide +kernel

/-- A disk with this class in a project, and with the service outside. -/
def climbingDisk : Disk :=
  ⟨[(["x"], .directory), (["x", "src"], .directory),
    (["x", "src", "c.ts"], .file (Text.encodeUtf8 climbingSource)),
    (["a.ts"], .file (Text.encodeUtf8 "class Service\x7b\x7d"))], []⟩

theorem resolved_liesBelow_or_leaves_climbingFacts :
    let s := ((resolveService climbingDisk (Resolver.usual "/x") climbingFacts
      (some "/x/src/c.ts")).run []).1
    s.located.found = some ("/a.ts", "class Service\x7b\x7d") ∧ "/a.ts" ∈ s.located.checked ∧
      ∃ route ∈ (contextOf (Resolver.usual "/x") climbingFacts (some "/x/src/c.ts") .service
        [s.serviceName] s.importPath).openRoutes, ¬ route.KeepsBelow climbingDisk "/x" := by
  intro s
  have hplaced : climbingDisk.IsPlaced := fun n hn => absurd hn List.not_mem_nil
  have hentries : ∀ entry ∈ climbingDisk.entries, ∀ n ∈ entry.1, IsName n := by decide +kernel
  have hdirectory : ∀ directory, directoryOf (some "/x/src/c.ts") = some directory →
      directory ≠ "" → climbingDisk.LiesBelow "/x" directory := by
    rintro directory hdirectory -
    have hsources : directoryOf (some "/x/src/c.ts") = some "/x/src" := by decide +kernel
    rw [hsources] at hdirectory
    cases hdirectory
    decide +kernel
  have hfound : s.located.found = some ("/a.ts", "class Service\x7b\x7d") := by
    decide +kernel
  have hreach := resolved_liesBelow_or_leaves climbingDisk (Resolver.usual "/x") climbingFacts
    (some "/x/src/c.ts") [] hplaced hentries hdirectory (cacheSound_nil _ _)
  have hchecked := (hreach.2.1 _ _ hfound).1
  refine ⟨hfound, hchecked, ?_⟩
  have houtside : ¬ climbingDisk.LiesBelow "/x" "/a.ts" := by decide +kernel
  rcases hreach.1 _ hchecked with hinside | ⟨route, hroute, hleaves, -⟩
  · exact absurd hinside houtside
  · exact ⟨route, hroute, hleaves⟩

end RoleAudit
