import RoleAudit.Proofs.Path.Normal
import RoleAudit.Proofs.Resolution.Precedence

/-!
# Scanned files

A scan goes through the files of the source directory whose names fit, and stops at a limit. What
this means for the file of a service or a group of policies:

- `fittingFiles`: the files whose names fit, in the order of the walk; `byScan_eq_take`: a scan
  proposes the first of them;
- `isSome_foundIn_usual`: the usual strategies find a file exactly if one of the files that they
  propose defines all classes in any case;
- `ScanReaches`: a fitting file that defines all classes is reached, unless as many fitting files as
  the limit says stand before it;
- `resolutions_scan`: this holds for the service and for each group of policies of a controller.
-/

namespace RoleAudit

/-! ## Fitting files -/

/-- The source files of a project whose names fit, in the order of the walk. -/
def fittingFiles (d : Disk) (project : String) (kind : FileKind) : List String :=
  (sourceFiles d (Path.join project sourceRoot)).filter fun path =>
    Locator.fits kind (Path.baseName path)

/-- A scan proposes the first fitting files. -/
theorem byScan_eq_take (d : Disk) (c : LookupContext) :
    Locator.byScan d c = (fittingFiles d c.project c.kind).take usualLimit :=
  rfl

/-- The files that are proposed for a class: by its import, by conventions, and by a scan. -/
def proposedFiles (d : Disk) (c : LookupContext) : List String :=
  Locator.byImport c ++ Locator.byConvention c ++ (fittingFiles d c.project c.kind).take usualLimit

theorem mem_proposals_usual {d : Disk} {project : String} {c : LookupContext} {path : String} :
    path ∈ proposals ((Resolver.usual project).strategies d).locators c ↔
      ∃ file ∈ proposedFiles d c, Path.normalize file = path := by
  have hall : (((Resolver.usual project).strategies d).locators.flatMap fun propose => propose c) =
      proposedFiles d c := by
    simp [Resolver.strategies, Resolver.usual, Locator.all, Locator.paths, proposedFiles,
      byScan_eq_take]
  rw [proposals, Text.mem_distinct, hall, List.mem_map]

/--
The usual strategies find a file exactly if one of the proposed files defines all wanted classes in
any case.
-/
theorem isSome_foundIn_usual (d : Disk) (project : String) (texts : Texts) (c : LookupContext) :
    (((Resolver.usual project).strategies d).foundIn texts c).isSome = true ↔
      ∃ file ∈ proposedFiles d c, ∃ text, texts (Path.normalize file) = some text ∧
        ∀ name ∈ c.classNames, ClassMatcher.anyCase.defines text name = true := by
  rw [Strategies.isSome_foundIn_iff]
  constructor
  · rintro ⟨accepts, hmatcher, path, hpath, text, htext, hall⟩
    rcases mem_proposals_usual.1 hpath with ⟨file, hfile, rfl⟩
    refine ⟨file, hfile, text, htext, fun name hname => ?_⟩
    exact ClassMatcher.defines_anyCase_of_mem hmatcher (hall name hname)
  · rintro ⟨file, hfile, text, htext, hall⟩
    have hmatcher : ClassMatcher.anyCase.defines ∈
        ((Resolver.usual project).strategies d).matchers :=
      List.mem_map_of_mem (List.mem_cons_of_mem _ List.mem_cons_self)
    exact ⟨_, hmatcher, _, mem_proposals_usual.2 ⟨file, hfile, rfl⟩, text, htext, hall⟩

/-! ## What a scan reaches -/

/--
Whether a file is found for some classes: exactly if one of the proposed files defines all of them
in any case. So a fitting file that defines all of them by their exact names is enough, unless the
limit of a scan is reached before it.
-/
structure ScanReaches (d : Disk) (c : LookupContext) (success : Bool) : Prop where
  found_iff : success = true ↔ ∃ file ∈ proposedFiles d c, ∃ text,
    readText? d c.project (Path.normalize file) = some text ∧
      ∀ name ∈ c.classNames, ClassMatcher.anyCase.defines text name = true
  within_limit : ∀ file ∈ fittingFiles d c.project c.kind, ∀ text,
    readText? d c.project file = some text →
    (∀ name ∈ c.classNames, ClassMatcher.exact.defines text name = true) →
    success = true ∨ usualLimit ≤ (fittingFiles d c.project c.kind).idxOf file

/-- The usual search reaches what a scan does. -/
theorem scanReaches_usual (d : Disk) (c : LookupContext) :
    ScanReaches d c
      (((Resolver.usual c.project).strategies d).foundIn (readText? d c.project) c).isSome := by
  have hfound := isSome_foundIn_usual d c.project (readText? d c.project) c
  refine ⟨hfound, fun file hfile text htext hall => ?_⟩
  rcases Nat.lt_or_ge ((fittingFiles d c.project c.kind).idxOf file) usualLimit with hearly | hlate
  · left
    have htaken := (List.mem_take_iff_idxOf_lt hfile).2 hearly
    refine hfound.2 ⟨file, List.mem_append_right _ htaken, text, readText?_normalize htext, ?_⟩
    intro name hname
    exact ClassMatcher.defines_anyCase (hall name hname)
  · exact Or.inr hlate

/--
For every project and every controller, wherever it lies and whatever the paths of its imports are:
the service that is chosen and each group of policies are found exactly if one of the proposed files
defines all wanted classes in any case. In particular each file of the source directory whose name
fits and whose text defines all of them by their exact names makes the search succeed, unless as
many fitting files as the limit of a scan stand before it.
-/
theorem resolutions_scan (d : Disk) (project : String) (facts : ControllerFacts)
    (controllerPath : Option String) (cache : TextCache)
    (hcache : CacheSound d (Resolver.usual project) cache) :
    let r := Resolver.usual project
    let s := ((resolveService d r facts controllerPath).run cache).1
    let p := ((resolvePolicies d r facts controllerPath).run cache).1
    (∀ property name, chosenService? facts = some (property, name) →
      ScanReaches d (contextOf r facts controllerPath .service [name] s.importPath) s.success) ∧
    ∀ g ∈ p.groups,
      ScanReaches d (contextOf r facts controllerPath .policy g.names g.importPath) g.success := by
  intro r s p
  constructor
  · intro property name hchosen
    rcases resolveService_of_cacheSound d r facts controllerPath hcache hchosen with
      ⟨-, -, hlocated⟩
    rw [ServiceResolution.success, hlocated, Lookup.found_find]
    exact scanReaches_usual d (Lookup.context ⟨.service, facts, controllerPath⟩ r [name] _)
  · intro g hg
    have hgroups := groups_of_cacheSound d r facts controllerPath hcache
    rw [hgroups] at hg
    rcases List.mem_map.1 hg with ⟨group, -, rfl⟩
    rw [PolicyGroup.success, Lookup.found_find]
    exact scanReaches_usual d (Lookup.context ⟨.policy, facts, controllerPath⟩ r group.2 group.1)

/-- A controller whose imports lead nowhere. -/
def unboundFacts : ControllerFacts :=
  ⟨"A", "", [], [], [⟨"AService", "elsewhere"⟩, ⟨"ReadPolicy", "nowhere"⟩]⟩

/-- A project with the classes in files that only a scan can find. -/
def deepDisk : Disk :=
  ⟨[(["x"], .directory), (["x", "src"], .directory), (["x", "src", "deep"], .directory),
    (["x", "src", "deep", "0.service.ts"], .file (Text.encodeUtf8 "class Other")),
    (["x", "src", "deep", "z.service.ts"], .file (Text.encodeUtf8 "class AService")),
    (["x", "src", "deep", "z.policy.ts"], .file (Text.encodeUtf8 "class ReadPolicy"))], []⟩

theorem resolutions_scan_deepDisk :
    let s := ((resolveService deepDisk (Resolver.usual "/x") unboundFacts none).run []).1
    let p := ((resolvePolicies deepDisk (Resolver.usual "/x") unboundFacts none).run []).1
    s.success = true ∧ p.groups.length = 1 ∧
      ∀ g ∈ p.groups, g.names = ["ReadPolicy"] → g.success = true := by
  intro s p
  rcases resolutions_scan deepDisk "/x" unboundFacts none [] (cacheSound_nil _ _) with
    ⟨hservice, hpolicies⟩
  have hchosen : chosenService? unboundFacts = some ("", "AService") := by decide +kernel
  -- few files fit, so none is beyond the limit
  have hservices : fittingFiles deepDisk "/x" .service =
      ["/x/src/deep/0.service.ts", "/x/src/deep/z.service.ts"] := by decide +kernel
  have hrules : fittingFiles deepDisk "/x" .policy = ["/x/src/deep/z.policy.ts"] := by
    decide +kernel
  have hfile : "/x/src/deep/z.service.ts" ∈ fittingFiles deepDisk "/x" .service := by
    rw [hservices]
    exact List.mem_cons_of_mem _ List.mem_cons_self
  have hfile' : "/x/src/deep/z.policy.ts" ∈ fittingFiles deepDisk "/x" .policy := by
    rw [hrules]
    exact List.mem_cons_self
  have htext : readText? deepDisk "/x" "/x/src/deep/z.service.ts" = some "class AService" := by
    decide +kernel
  have htext' : readText? deepDisk "/x" "/x/src/deep/z.policy.ts" = some "class ReadPolicy" := by
    decide +kernel
  have hearly : ¬ usualLimit ≤
      (fittingFiles deepDisk "/x" .service).idxOf "/x/src/deep/z.service.ts" := by
    rw [hservices]
    decide +kernel
  have hearly' : ¬ usualLimit ≤
      (fittingFiles deepDisk "/x" .policy).idxOf "/x/src/deep/z.policy.ts" := by
    rw [hrules]
    decide +kernel
  refine ⟨?_, by decide +kernel, fun g hg hnames => ?_⟩
  · have hall : ∀ name ∈ ["AService"],
        ClassMatcher.exact.defines "class AService" name = true := by decide +kernel
    have hfound := (hservice "" "AService" hchosen).within_limit _ hfile _ htext hall
    exact hfound.resolve_right hearly
  · have hall : ∀ name ∈ g.names,
        ClassMatcher.exact.defines "class ReadPolicy" name = true := by
      rw [hnames]
      decide +kernel
    have hfound := (hpolicies g hg).within_limit _ hfile' _ htext' hall
    exact hfound.resolve_right hearly'

end RoleAudit
