import RoleAudit.Proofs.Resolution.Precedence
import RoleAudit.Proofs.Tables

/-!
# Groups of policies

The policies that a controller imports are looked for path by path, and a group is found only as a
whole:

- `DefinesAll`: the text at a path defines all of some classes, found in one way;
- `PolicyGroup.Decided`: a group that was found has one file and one way to find its classes there,
  and one that was not found has none among its candidates;
- `PolicyResolution.names_perm`: found and missing policies are all policies of the groups;
- `policies_grouped`: the groups are those of the import paths, and each of them is decided.
-/

namespace RoleAudit

/-! ## One group -/

/-- A resolver reads a text at a path that defines all of some classes, found in one way. -/
def DefinesAll (d : Disk) (r : Resolver) (m : ClassMatcher) (names : List String)
    (path text : String) : Prop :=
  readText? d r.project path = some text ∧ ∀ name ∈ names, m.defines text name = true

/--
Whether a group was found says whether one of its candidates defines all of its classes, all of them
found in the same way.
-/
structure PolicyGroup.Decided (d : Disk) (r : Resolver) (g : PolicyGroup) : Prop where
  found : ∀ path text, g.located.found = some (path, text) → path ∈ g.located.checked ∧
    ∃ m ∈ r.matchers, DefinesAll d r m g.names path text
  missing : g.success = false → ∀ path ∈ g.located.checked, ∀ m ∈ r.matchers, ∀ text,
    ¬ DefinesAll d r m g.names path text

/-- What a resolver finds among candidates fits one of its matchers. -/
theorem definesAll_of_foundIn {d : Disk} {r : Resolver} {c : LookupContext} {path text : String}
    (h : (r.strategies d).foundIn (readText? d r.project) c = some (path, text)) :
    ∃ m ∈ r.matchers, DefinesAll d r m c.classNames path text := by
  rcases List.exists_of_findSome?_eq_some h with ⟨accepts, hmatcher, hrow⟩
  rcases List.mem_map.1 hmatcher with ⟨m, hm, rfl⟩
  rcases List.exists_of_findSome?_eq_some hrow with ⟨candidate, -, hfit⟩
  have hfit : fit? d c.classNames r.project m.defines candidate = some (path, text) := hfit
  exact ⟨m, hm, (Strategies.fit?_eq_some_iff.1 hfit).2⟩

/-- A group whose file is looked for among the texts on the disk is decided. -/
theorem decided_find (d : Disk) (r : Resolver) (facts : ControllerFacts)
    (controllerPath : Option String) (path : String) (names : List String) :
    PolicyGroup.Decided d r ⟨path, names,
      Lookup.find ⟨.policy, facts, controllerPath⟩ d r (readText? d r.project) names path⟩ := by
  constructor
  · intro file text hfound
    rw [Lookup.found_find] at hfound
    exact ⟨(foundAmong_foundIn d r _ _ file text hfound).1, definesAll_of_foundIn hfound⟩
  · intro hmissing file hfile m hm text ⟨htext, hall⟩
    have hsome := ((r.strategies d).isSome_foundIn_iff (readText? d r.project)
      (Lookup.context ⟨.policy, facts, controllerPath⟩ r names path)).2
        ⟨m.defines, List.mem_map_of_mem hm, file, hfile, text, htext, hall⟩
    rw [← Lookup.found_find] at hsome
    rw [PolicyGroup.success, hsome] at hmissing
    cases hmissing

/-! ## All groups -/

/-- The policies that were found and those that were not are the policies of all groups. -/
theorem PolicyResolution.names_perm (p : PolicyResolution) :
    (p.resolvedNames ++ p.unresolvedNames).Perm (p.groups.flatMap (·.names)) := by
  unfold resolvedNames unresolvedNames
  rw [← List.flatMap_append]
  exact (List.filter_append_perm PolicyGroup.success p.groups).flatMap_right _

/--
For every project, every controller and any candidates and matchers: the policies of a controller are
looked for in groups, one for each path that a policy is imported from, in the order in which these
paths appear. A group has all policies that are imported from its path, in order, so the policies
that are found and those that are not are together all imported ones, each as often as it is
imported. A group is found in a file that one matcher accepts for all of its policies; it is not
found only if no matcher accepts any of its candidates for all of them.
-/
theorem policies_grouped (d : Disk) (r : Resolver) (facts : ControllerFacts)
    (controllerPath : Option String) (cache : TextCache) (hcache : CacheSound d r cache) :
    let p := ((resolvePolicies d r facts controllerPath).run cache).1
    let wanted := facts.imports.filter fun i => Text.occursIn i.name "Policy"
    let paths := p.groups.map (·.importPath)
    ((∀ path, path ∈ paths ↔ path ∈ wanted.map (·.path)) ∧
        paths.Pairwise fun a b =>
          (wanted.map (·.path)).idxOf a < (wanted.map (·.path)).idxOf b) ∧
      (∀ g ∈ p.groups, g.names = (wanted.filter fun i => i.path == g.importPath).map (·.name)) ∧
      (p.resolvedNames ++ p.unresolvedNames).Perm (wanted.map (·.name)) ∧
      ∀ g ∈ p.groups, g.Decided d r ∧ g.located.checked =
        candidates d r.locators (contextOf r facts controllerPath .policy g.names g.importPath) := by
  intro p wanted paths
  have hgroups := groups_of_cacheSound d r facts controllerPath hcache
  change p.groups = _ at hgroups
  -- a group is opened for a path where it appears first
  have hpaths : paths = Text.distinct (wanted.map (·.path)) := by
    have hkeys : paths = (policyGroups facts.imports).map (·.1) := by
      simp only [paths, hgroups, List.map_map]
      rfl
    exact hkeys.trans (keys_policyGroups facts.imports)
  have hnames : p.groups.flatMap (·.names) = (policyGroups facts.imports).flatMap (·.2) := by
    rw [hgroups, List.flatMap_map]
  refine ⟨⟨fun path => ?_, ?_⟩, fun g hg => ?_, ?_, fun g hg => ?_⟩
  · rw [hpaths, Text.mem_distinct]
  · rw [hpaths]
    exact Text.pairwise_distinct _
  · rw [hgroups] at hg
    rcases List.mem_map.1 hg with ⟨⟨path, names⟩, hgroup, rfl⟩
    rw [(mem_policyGroups.1 hgroup).1, policiesFrom, List.filter_filter]
    simp only [Bool.and_comm]
  · exact p.names_perm.trans (hnames ▸ flatMap_policyGroups_perm facts.imports)
  · rw [hgroups] at hg
    rcases List.mem_map.1 hg with ⟨⟨path, names⟩, -, rfl⟩
    exact ⟨decided_find d r facts controllerPath path names, rfl⟩

/-- A controller that imports policies from two paths in turn. -/
def interleavedFacts : ControllerFacts :=
  ⟨"A", "", [], [], [⟨"ReadPolicy", "@/r"⟩, ⟨"WritePolicy", "@/w"⟩, ⟨"Reader", "@/r"⟩,
    ⟨"ListPolicy", "@/r"⟩, ⟨"DropPolicy", "@/w"⟩]⟩

/-- One file has both policies of its group, the other one has only one of them. -/
def interleavedDisk : Disk :=
  ⟨[(["x"], .directory), (["x", "src"], .directory),
    (["x", "src", "r.ts"], .file (Text.encodeUtf8 "class ReadPolicy; class ListPolicy")),
    (["x", "src", "w.ts"], .file (Text.encodeUtf8 "class WritePolicy"))], []⟩

theorem policies_grouped_interleavedDisk :
    ∃ p, ((resolvePolicies interleavedDisk (Resolver.usual "/x") interleavedFacts none).run
        []).1 = p ∧
      p.groups.map (fun g => (g.importPath, g.names, g.path)) =
        [("@/r", ["ReadPolicy", "ListPolicy"], some "/x/src/r.ts"),
          ("@/w", ["WritePolicy", "DropPolicy"], none)] ∧
      (p.resolvedNames ++ p.unresolvedNames).Perm
        ["ReadPolicy", "WritePolicy", "ListPolicy", "DropPolicy"] ∧
      ∀ g ∈ p.groups, g.Decided interleavedDisk (Resolver.usual "/x") := by
  obtain ⟨-, -, hperm, hdecided⟩ := policies_grouped interleavedDisk (Resolver.usual "/x")
    interleavedFacts none [] (cacheSound_nil _ _)
  have hwanted : (interleavedFacts.imports.filter fun i => Text.occursIn i.name "Policy").map
      (·.name) = ["ReadPolicy", "WritePolicy", "ListPolicy", "DropPolicy"] := by decide +kernel
  refine ⟨_, rfl, by decide +kernel, hperm.trans (.of_eq hwanted), fun g hg => ?_⟩
  exact (hdecided g hg).1

end RoleAudit
