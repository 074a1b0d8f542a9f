import RoleAudit.Proofs.Audit.Degradation
import RoleAudit.Proofs.Oracle.Agreement

/-!
# Where a condition is read

The condition of a guarded endpoint is what its policy passes to the class that it extends. The files
of all policies of a controller are read as one text, in which the last class of a name counts. So
the file that a policy is imported from does not always have the last word:

- `mem_policyNames`, `nodup_policyNames`: the policies of a controller, each once;
- `passedBy?`, `conditionIn`: what the last class of a name passes on in a text;
- `lookup_given_constraintsRead`: reading answers with these conditions;
- `ReadApart`, `passedBy?_joinWith`: texts that are joined and still read one by one;
- `policiesAlone`: the policies of a controller that is analysed by itself;
- `lookup_conditions_reading`: which text the condition of an endpoint comes from, and when this is
  the file of its policy.
-/

namespace RoleAudit

open RoleAudit.Syntax

/-! ## The policies of a controller -/

theorem nodup_policyNames (facts : ControllerFacts) : facts.policyNames.Nodup :=
  (Text.sorted_perm _).nodup_iff.2 (Text.nodup_distinct _)

/-- The policies of a controller are those of its endpoints. -/
theorem mem_policyNames {facts : ControllerFacts} {policy : String} :
    policy ∈ facts.policyNames ↔ policy ≠ "" ∧ ∃ e ∈ facts.endpoints, e.policy = policy := by
  unfold ControllerFacts.policyNames
  rw [(Text.sorted_perm _).mem_iff, Text.mem_distinct, List.mem_filter, List.mem_map, and_comm]
  simp

/-! ## What classes pass on -/

/-- What each class of a text passes to the class that it extends, in source order. -/
def passedOn (text : String) : List (String × String) :=
  (namedClasses (Node.ofSource text)).map fun (name, c) => (name, superArgument c)

/-- What the last class of a name passes on, if there is one. -/
def passedBy? (policy text : String) : Option String :=
  (passedOn text).reverse.lookup policy

/-- The condition of a policy in a text, or the empty text. -/
def conditionIn (policy text : String) : String :=
  (passedBy? policy text).getD ""

/-- A condition is resolved if it is not empty. -/
def resolved? (condition : String) : Option String :=
  if condition.isEmpty then none else some condition

theorem getD_resolved? (condition : String) : (resolved? condition).getD "" = condition := by
  unfold resolved?
  split
  · rename_i hempty
    exact (String.isEmpty_iff.1 hempty).symm
  · rfl

theorem resolved?_inj {condition condition' : String} :
    resolved? condition = resolved? condition' ↔ condition = condition' := by
  constructor
  · intro hsame
    rw [← getD_resolved? condition, hsame, getD_resolved?]
  · exact congrArg resolved?

/-- Reading gives each policy its condition in the source. -/
theorem constraintsRead_eq (policies : List String) (source : String) :
    constraintsRead policies source = tableOf (policies.map fun p => (p, conditionIn p source)) := by
  unfold constraintsRead conditionIn passedBy? passedOn
  dsimp only
  simp only [← List.map_reverse, lookup_map_snd]

/-- Of distinct policies, those have an answer whose condition in the source is not empty. -/
theorem lookup_given_constraintsRead {policies : List String} (hdistinct : policies.Nodup)
    {policy : String} (hmem : policy ∈ policies) (source : String) :
    (given (constraintsRead policies source)).lookup policy =
      resolved? (conditionIn policy source) := by
  have hkeys : ((policies.map fun p => (p, conditionIn p source)).map (·.1)).Nodup := by
    simpa [Function.comp_def] using hdistinct
  have hgiven : given (constraintsRead policies source) =
      policies.filterMap fun p => (resolved? (conditionIn p source)).map fun v => (p, v) := by
    rw [constraintsRead_eq, tableOf_of_nodup hkeys]
    unfold given
    rw [List.filter_map, ← List.filterMap_eq_map, ← List.filterMap_eq_filter]
    rw [List.filterMap_filterMap]
    apply congrArg fun value => policies.filterMap value
    funext p
    unfold resolved?
    cases hempty : (conditionIn p source).isEmpty <;> simp [Option.guard, hempty]
  rw [hgiven, lookup_filterMap_self fun p => resolved? (conditionIn p source), if_pos hmem]

/-! ## Texts that are joined -/

/-- Texts that are joined are read as each of them is by itself. -/
def ReadApart (texts : List String) : Prop :=
  passedOn (Text.joinWith "\n\n" texts) = texts.flatMap passedOn

instance (texts : List String) : Decidable (ReadApart texts) := by
  unfold ReadApart
  infer_instance

theorem lookup_flatMap {α β : Type} (entries : α → List (String × β)) (items : List α)
    (name : String) :
    (items.flatMap entries).lookup name = items.findSome? fun a => (entries a).lookup name := by
  induction items with
  | nil => rfl
  | cons a rest ih =>
      rw [List.flatMap_cons, List.lookup_append, ih, List.findSome?_cons]
      cases (entries a).lookup name <;> rfl

/-- In texts that are joined, the last one that has a class of the name counts. -/
theorem passedBy?_joinWith {texts : List String} (h : ReadApart texts) (policy : String) :
    passedBy? policy (Text.joinWith "\n\n" texts) =
      texts.reverse.findSome? (passedBy? policy) := by
  unfold passedBy?
  rw [h, List.reverse_flatMap, lookup_flatMap]
  rfl

/-- If only one of the texts has a class of the name, its condition counts. -/
theorem conditionIn_joinWith_of_only {texts : List String} (h : ReadApart texts) {policy own : String}
    (hown : own ∈ texts)
    (honly : ∀ text ∈ texts, (passedBy? policy text).isSome = true → text = own) :
    conditionIn policy (Text.joinWith "\n\n" texts) = conditionIn policy own := by
  unfold conditionIn
  rw [passedBy?_joinWith h]
  cases hfound : texts.reverse.findSome? (passedBy? policy) with
  | none =>
      have hnone := List.findSome?_eq_none_iff.1 hfound own (List.mem_reverse.2 hown)
      rw [hnone]
  | some condition =>
      rcases List.exists_of_findSome?_eq_some hfound with ⟨text, htext, hpassed⟩
      rw [← honly text (List.mem_reverse.1 htext) (by rw [hpassed]; rfl), hpassed]

example : ReadApart ["class A\x7b\x7d", "class B\x7b\x7d"] := by decide +kernel

/-! ## The condition of an endpoint -/

/-- The policies of a controller that is analysed by itself. -/
def policiesAlone (d : Disk) (project path source : String) : PolicyResolution :=
  ((resolvePolicies d (Resolver.usual project) (ControllerFacts.ofSource source)
    (some path)).run []).1

/-- The texts of the policies that were found. -/
def PolicyResolution.texts (p : PolicyResolution) : List String :=
  (p.groups.filter PolicyGroup.success).map PolicyGroup.content

theorem PolicyResolution.mem_resolvedNames {p : PolicyResolution} {g : PolicyGroup} {policy : String}
    (hgroup : g ∈ p.groups) (hfound : g.success = true) (hnamed : policy ∈ g.names) :
    policy ∈ p.resolvedNames :=
  List.mem_flatMap.2 ⟨g, List.mem_filter.2 ⟨hgroup, hfound⟩, hnamed⟩

/-- What reading answers about a policy that was found: its condition in the texts that are joined. -/
theorem lookup_answersAlone_reading {a : Audit} (horacle : a.oracle = Oracle.reading) (d : Disk)
    (project path source : String) {policy : String}
    (hused : policy ∈ (ControllerFacts.ofSource source).policyNames)
    (hresolved : policy ∈ (policiesAlone d project path source).resolvedNames) :
    (a.answersAlone d project path source).lookup policy =
      resolved? (conditionIn policy (policiesAlone d project path source).content) := by
  have hmem : policy ∈ (ControllerFacts.ofSource source).policyNames.filter
      (policiesAlone d project path source).resolvedNames.contains :=
    List.mem_filter.2 ⟨hused, by simpa using hresolved⟩
  have hdistinct := (nodup_policyNames (ControllerFacts.ofSource source)).filter
    (policiesAlone d project path source).resolvedNames.contains
  have hanswers : a.answersAlone d project path source =
      given (constraintsRead ((ControllerFacts.ofSource source).policyNames.filter
        (policiesAlone d project path source).resolvedNames.contains)
        (policiesAlone d project path source).content) := by
    -- the policy itself is among those that are asked about
    have hnonempty := List.ne_nil_of_mem hmem
    unfold Audit.answersAlone Audit.answersOf policyAnswers
    unfold policiesAlone at hnonempty ⊢
    rw [if_neg (by simpa [List.isEmpty_iff] using hnonempty), horacle]
    rfl
  rw [hanswers, lookup_given_constraintsRead hdistinct hmem]

/--
When the source is read, the condition of an endpoint is that of the last class of its policy in the
joined texts of all policies of the controller, and unresolved if that is empty. It comes from the
file of the policy if no other file was found. If the texts are read apart, it is what the last file
with such a class says; this is the file of the policy, in particular, if no other one has the class.
-/
theorem lookup_conditions_reading (a : Audit) (d : Disk) (project path source name : String)
    (e : Endpoint) (g : PolicyGroup) (horacle : a.oracle = Oracle.reading)
    (hfirst : (ControllerFacts.ofSource source).endpoints.find? (fun e => e.name == name) = some e)
    (hguarded : e.policy ≠ "") (hgroup : g ∈ (policiesAlone d project path source).groups)
    (hfound : g.success = true) (hnamed : e.policy ∈ g.names) :
    let texts := (policiesAlone d project path source).texts
    let mapped := lookup? (a.partsAlone d project path source).conditions name
    let own := resolved? (conditionIn e.policy g.content)
    mapped = some (resolved? (conditionIn e.policy (Text.joinWith "\n\n" texts))) ∧
      (texts = [g.content] → mapped = some own) ∧
      (ReadApart texts →
        (mapped = some own ↔ (texts.reverse.findSome? (passedBy? e.policy)).getD "" =
          conditionIn e.policy g.content) ∧
        ((∀ text ∈ texts, (passedBy? e.policy text).isSome = true → text = g.content) →
          mapped = some own)) := by
  have hused : e.policy ∈ (ControllerFacts.ofSource source).policyNames :=
    mem_policyNames.2 ⟨hguarded, e, List.mem_of_find?_eq_some hfirst, rfl⟩
  have hresolved := PolicyResolution.mem_resolvedNames hgroup hfound hnamed
  have hanswer := lookup_answersAlone_reading horacle d project path source hused hresolved
  have hcontent : (policiesAlone d project path source).content =
      Text.joinWith "\n\n" (policiesAlone d project path source).texts := rfl
  have hown : g.content ∈ (policiesAlone d project path source).texts :=
    List.mem_map.2 ⟨g, List.mem_filter.2 ⟨hgroup, hfound⟩, rfl⟩
  -- the condition is looked up for the first endpoint of this name, in what was read from all texts
  have hmapped : lookup? (a.partsAlone d project path source).conditions name =
      some (resolved? (conditionIn e.policy
        (Text.joinWith "\n\n" (policiesAlone d project path source).texts))) := by
    unfold lookup?
    rw [conditions_partsAlone, lookup_constraintMappings, hfirst, Option.map_some, conditionFor,
      if_neg (by simpa [String.isEmpty_iff] using hguarded), lookup?, hanswer, hcontent]
  dsimp only
  generalize (policiesAlone d project path source).texts = texts at hmapped hown ⊢
  rw [hmapped]
  refine ⟨rfl, ?_, ?_⟩
  · rintro rfl
    rfl
  · intro hapart
    refine ⟨?_, ?_⟩
    · -- a later text with such a class overrules the own one
      rw [Option.some.injEq, resolved?_inj, ← passedBy?_joinWith hapart]
      exact Iff.rfl
    · intro honly
      rw [conditionIn_joinWith_of_only hapart hown honly]

/-- A controller with two policies, each imported from a file of its own. -/
def twoPolicies : String :=
  "import\x7bPolicy\x7dfrom'./a';import\x7bMyPolicy\x7dfrom'./b';class C\x7b" ++
    "@CheckPolicies(new Policy())l()\x7b\x7d@CheckPolicies(new MyPolicy())m()\x7b\x7d\x7d"

def ownPolicy : String :=
  "class Policy\x7bconstructor()\x7bsuper('a')\x7d\x7d"

/-- A file with a policy and another class of the name of the first one. -/
def otherPolicies : String :=
  "class Policy\x7bconstructor()\x7bsuper('x')\x7d\x7d" ++
    "class MyPolicy\x7bconstructor()\x7bsuper('b')\x7d\x7d"

/-- A disk with both files. -/
def policyDisk : Disk :=
  ⟨[(["a.ts"], .file (Text.encodeUtf8 ownPolicy)), (["b.ts"], .file (Text.encodeUtf8 otherPolicies))],
    []⟩

theorem passedOn_policies : passedOn ownPolicy = [("Policy", "a")] ∧
    passedOn otherPolicies = [("Policy", "x"), ("MyPolicy", "b")] := by
  decide +kernel

theorem readApart_policies : ReadApart [ownPolicy, otherPolicies] := by
  have hjoined : passedOn (Text.joinWith "\n\n" [ownPolicy, otherPolicies]) =
      [("Policy", "a"), ("Policy", "x"), ("MyPolicy", "b")] := by
    decide +kernel
  simp [ReadApart, hjoined, passedOn_policies]

/-- What the controller says about itself. -/
def twoPoliciesFacts : ControllerFacts :=
  ⟨"C", "", [⟨"l", 1, "", [], "Policy", none, []⟩, ⟨"m", 1, "", [], "MyPolicy", none, []⟩], [],
    [⟨"Policy", "./a"⟩, ⟨"MyPolicy", "./b"⟩]⟩

theorem ofSource_twoPolicies : ControllerFacts.ofSource twoPolicies = twoPoliciesFacts := by
  decide +kernel

/-- The group of the policies that it imports from a path. -/
def policyDiskGroup (importPath : String) (names : List String) : PolicyGroup :=
  let r := Resolver.usual "/"
  ⟨importPath, names, Lookup.find ⟨.policy, twoPoliciesFacts, some "/c"⟩ policyDisk r
    (readText? policyDisk r.project) names importPath⟩

theorem groups_twoPolicies : (policiesAlone policyDisk "/" "/c" twoPolicies).groups =
    [policyDiskGroup "./a" ["Policy"], policyDiskGroup "./b" ["MyPolicy"]] := by
  have hgroups : policyGroups twoPoliciesFacts.imports =
      [("./a", ["Policy"]), ("./b", ["MyPolicy"])] := by
    decide +kernel
  calc (policiesAlone policyDisk "/" "/c" twoPolicies).groups
      = ((resolvePolicies policyDisk (Resolver.usual "/") twoPoliciesFacts
          (some "/c")).run []).1.groups := by
        rw [← ofSource_twoPolicies, policiesAlone]
    _ = (policyGroups twoPoliciesFacts.imports).map _ :=
        groups_of_cacheSound _ _ _ _ (cacheSound_nil _ _)
    _ = [("./a", ["Policy"]), ("./b", ["MyPolicy"])].map _ := congrArg (List.map _) hgroups
    _ = [policyDiskGroup "./a" ["Policy"], policyDiskGroup "./b" ["MyPolicy"]] := rfl

/-- A group with a text was found, and this is its content. -/
theorem PolicyGroup.success_and_content {g : PolicyGroup} {text : String}
    (h : g.located.found.map (·.2) = some text) : g.success = true ∧ g.content = text := by
  rw [success, content, h]
  rcases Option.map_eq_some_iff.1 h with ⟨hit, hhit, -⟩
  simp [hhit]

/-- The other file has the last word about the class that both have. -/
theorem lookup_conditions_reading_policyDisk :
    let conditions :=
      ((plainAudit.asking Oracle.reading).partsAlone policyDisk "/" "/c" twoPolicies).conditions
    lookup? conditions "l" = some (some "x") ∧ lookup? conditions "m" = some (some "b") := by
  have hgroups := groups_twoPolicies
  obtain ⟨hfound, hcontent⟩ :
      (policyDiskGroup "./a" ["Policy"]).success = true ∧
        (policyDiskGroup "./a" ["Policy"]).content = ownPolicy :=
    PolicyGroup.success_and_content (by decide +kernel)
  obtain ⟨hfound', hcontent'⟩ :
      (policyDiskGroup "./b" ["MyPolicy"]).success = true ∧
        (policyDiskGroup "./b" ["MyPolicy"]).content = otherPolicies :=
    PolicyGroup.success_and_content (by decide +kernel)
  have htexts : (policiesAlone policyDisk "/" "/c" twoPolicies).texts =
      [ownPolicy, otherPolicies] := by
    simp [PolicyResolution.texts, hgroups, hfound, hfound', hcontent, hcontent']
  have hapart : ReadApart (policiesAlone policyDisk "/" "/c" twoPolicies).texts := by
    rw [htexts]
    exact readApart_policies
  have hl := lookup_conditions_reading (plainAudit.asking Oracle.reading) policyDisk "/" "/c"
    twoPolicies "l" ⟨"l", 1, "", [], "Policy", none, []⟩ (policyDiskGroup "./a" ["Policy"]) rfl
    (by simp [ofSource_twoPolicies, twoPoliciesFacts]) (by simp) (by simp [hgroups]) hfound
    (by simp [policyDiskGroup])
  have hm := lookup_conditions_reading (plainAudit.asking Oracle.reading) policyDisk "/" "/c"
    twoPolicies "m" ⟨"m", 1, "", [], "MyPolicy", none, []⟩ (policyDiskGroup "./b" ["MyPolicy"]) rfl
    (by simp [ofSource_twoPolicies, twoPoliciesFacts]) (by simp) (by simp [hgroups]) hfound'
    (by simp [policyDiskGroup])
  have hown : conditionIn "MyPolicy" otherPolicies = "b" := by
    simp [conditionIn, passedBy?, passedOn_policies]
  dsimp only at hl hm ⊢
  constructor
  · have hlast : conditionIn "Policy" (Text.joinWith "\n\n"
        (policiesAlone policyDisk "/" "/c" twoPolicies).texts) = "x" := by
      rw [conditionIn, passedBy?_joinWith hapart, htexts]
      simp only [passedBy?, passedOn_policies, List.reverse_cons, List.reverse_nil, List.nil_append,
        List.cons_append, List.findSome?_cons]
      decide
    rw [hl.1, hlast]
    rfl
  · have honly : ∀ text ∈ (policiesAlone policyDisk "/" "/c" twoPolicies).texts,
        (passedBy? "MyPolicy" text).isSome = true → text = (policyDiskGroup "./b" ["MyPolicy"]).content := by
      simp [htexts, hcontent', passedBy?, passedOn_policies]
    rw [(hm.2.2 hapart).2 honly, hcontent', hown]
    rfl

end RoleAudit
