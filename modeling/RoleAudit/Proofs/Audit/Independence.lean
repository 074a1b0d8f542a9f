import RoleAudit.Audit.Run
import RoleAudit.Proofs.Audit.Contribution
import RoleAudit.Proofs.Reconciliation.Difference

/-!
# Controllers one by one

The controllers of a project are analysed one after the other, with one resolver and one growing
run. None of them sees another one:

- `Run.combined`: a run made of contributions;
- `value_analyse`: an analysis combines what its controllers contribute alone;
- `Audit.prepared`: what an audit does before it looks at its controllers;
- `reconcile_order`: the order of the implemented permissions only orders the redundant ones;
- `run_combines_alone`: what this says of a whole audit.
-/

namespace RoleAudit

/-! ## Combining contributions -/

namespace Run

/-- A run made of contributions. -/
def combined (oracle : String) (rules : List Permission) (e : Extraction)
    (cs : List Contribution) : Run where
  oracle := oracle
  rules := rules
  extraction := e
  permissions := cs.flatMap (·.permissions)
  controllers := cs.filterMap (·.summary)
  unresolved := cs.flatMap (·.notes)
  questions := cs.flatMap (·.questions)

/-- One more contribution is one more step. -/
theorem add_combined (oracle : String) (rules : List Permission) (e : Extraction)
    (cs : List Contribution) (c : Contribution) :
    (combined oracle rules e cs).add c = combined oracle rules e (cs ++ [c]) := by
  have hsummary : c.summary.toList = [c].filterMap (·.summary) := by
    cases h : c.summary <;> simp [h]
  simp [add, combined, hsummary]

/-- The permissions of a run are those that are stored with its controllers. -/
theorem permissions_combined (oracle : String) (rules : List Permission) (e : Extraction)
    (cs : List Contribution) :
    (combined oracle rules e cs).permissions =
      (combined oracle rules e cs).controllers.flatMap (·.permissions) := by
  unfold combined
  dsimp only
  induction cs with
  | nil => rfl
  | cons c rest ih =>
      rw [List.flatMap_cons, List.filterMap_cons, ih]
      cases h : c.summary with
      | none => simp [Contribution.permissions, h]
      | some summary => simp [Contribution.permissions, h]

end Run

/-! ## One resolver for all -/

section Analysis

variable (a : Audit) (d : Disk)

/-- With a sound cache the rest of the controllers is added as if each were alone. -/
theorem value_analyseEach (project : String) (rules : List Permission) (e : Extraction)
    (paths : List String) (cs : List Contribution) (cache : TextCache)
    (h : CacheSound d (Resolver.usual project) cache) :
    ((analyseEach a d (Resolver.usual project) paths
        (Run.combined a.oracle.name rules e cs)).run cache).value.1 =
      Run.combined a.oracle.name rules e (cs ++ paths.map (a.alone d project)) := by
  -- the induction carries the sound cache and what was contributed so far
  induction paths generalizing cs cache with
  | nil => simp [analyseEach]
  | cons path rest ih =>
      have hsettled := settled_contribution a d (Resolver.usual project) path
      have halone : ((contribution a d (Resolver.usual project) path).run cache).value.1 =
          a.alone d project path := hsettled.value_eq h
      have hrest := ih (cs ++ [a.alone d project path]) _ (hsettled.sound h)
      rw [analyseEach, StateT.run_bind, Traced.value_bind, halone, Run.add_combined, hrest,
        List.append_assoc, List.map_cons, List.singleton_append]

/-- An analysis combines what its controllers contribute alone. -/
theorem value_analyse (rules : List Permission) (e : Extraction) :
    (a.analyse d rules e).value =
      Run.combined a.oracle.name rules e (e.controllers.map (a.alone d e.path)) :=
  value_analyseEach a d e.path rules e e.controllers [] [] (cacheSound_nil d _)

/-- The permissions of an analysis are those of its controllers, one after the other. -/
theorem permissions_analyse (rules : List Permission) (e : Extraction) :
    (a.analyse d rules e).value.permissions =
      e.controllers.flatMap fun path => (a.alone d e.path path).permissions := by
  rw [value_analyse]
  exact List.flatMap_map ..

end Analysis

/-! ## The order of the controllers -/

/-- The order of the implemented permissions only orders the redundant ones. -/
theorem reconcile_order (rules : List Permission) {permissions permissions' : List Permission}
    (h : permissions'.Perm permissions) :
    (reconcile rules permissions').lacking = (reconcile rules permissions).lacking ∧
      (reconcile rules permissions').redundant.Perm (reconcile rules permissions).redundant := by
  refine ⟨?_, h.filter _⟩
  exact unmatched_congr_right rules (sameClasses_of_mem_iff fun _ => h.mem_iff)

/-- Controllers in another order implement the same permissions in another order. -/
theorem permissions_analyse_order (a : Audit) (d : Disk) (rules : List Permission)
    (e : Extraction) {order : List String} (h : order.Perm e.controllers) :
    (a.analyse d rules { e with controllers := order }).value.permissions.Perm
      (a.analyse d rules e).value.permissions := by
  rw [permissions_analyse, permissions_analyse]
  exact h.flatMap_right _

/-! ## A whole audit -/

/-- The rules of a document are declared if it can be read; nothing else can fail. -/
theorem Policy.value_declaredBy (root : Except Xml.Error Xml.Element) :
    (Policy.declaredBy root).run.value = root.map fun root => (Policy.rulesIn root).value := by
  cases root <;> rfl

/-- What an audit does before it looks at controllers: it reads the rules and extracts the project. -/
def Audit.prepared (a : Audit) (d : Disk) (document : Policy.Document) (archive : Octets) :
    Disk × Except AuditError (List Permission × Extraction) :=
  match a.readers.policy document with
  | .error e => (d, .error (.policy e))
  | .ok root =>
    match a.exclusions with
    | .error e => (d, .error (.exclusions e))
    | .ok excluded =>
      let extracted := (extractFrom d (a.readers.archive archive) a.place excluded).value
      (extracted.1, (extracted.2.mapError .extraction).map fun e =>
        ((Policy.rulesIn root).value, e))

/-- An audit ends where its preparation fails, and else is that of its controllers. -/
theorem value_run_eq_prepared (a : Audit) (d : Disk) (document : Policy.Document)
    (archive : Octets) :
    (a.run d document archive).value =
      ((a.prepared d document archive).1, (a.prepared d document archive).2.map fun found =>
        (a.analyse (a.prepared d document archive).1 found.1 found.2).value) := by
  unfold Audit.run Audit.prepared
  rw [Traced.value_bind, Policy.value_declaredBy]
  cases a.readers.policy document with
  | error e => rfl
  | ok root =>
      dsimp only [Except.map]
      rw [Traced.value_bind]
      unfold Audit.extractAndAnalyse
      cases a.exclusions with
      | error e => rfl
      | ok excluded =>
          dsimp only
          rw [Traced.value_bind]
          rcases (extractFrom d (a.readers.archive archive) a.place excluded).value with
            ⟨d', error | e⟩ <;> rfl

/-- An audit whose policy can be read and whose archive extracts is that of its controllers. -/
theorem value_run (a : Audit) (d : Disk) (document : Policy.Document) (archive : Octets)
    {root : Xml.Element} {excluded : List String} {d' : Disk} {e : Extraction}
    (hroot : a.readers.policy document = .ok root) (hexcluded : a.exclusions = .ok excluded)
    (hextract : (extractFrom d (a.readers.archive archive) a.place excluded).value = (d', .ok e)) :
    (a.run d document archive).value =
      (d', .ok (a.analyse d' (Policy.rulesIn root).value e).value) := by
  have hprepared : a.prepared d document archive = (d', .ok ((Policy.rulesIn root).value, e)) := by
    unfold Audit.prepared
    rw [hroot, hexcluded]
    dsimp only
    rw [hextract]
    rfl
  rw [value_run_eq_prepared, hprepared]
  rfl

/-- The permissions of an audit are those of its controllers, one after the other. -/
theorem permissions_of_run (a : Audit) (d : Disk) (document : Policy.Document) (archive : Octets)
    {root : Xml.Element} {excluded : List String} {d' : Disk} {e : Extraction} {run : Run}
    (hroot : a.readers.policy document = .ok root) (hexcluded : a.exclusions = .ok excluded)
    (hextract : (extractFrom d (a.readers.archive archive) a.place excluded).value = (d', .ok e))
    (hrun : (a.run d document archive).value.2 = .ok run) :
    run.permissions = e.controllers.flatMap fun path => (a.alone d' e.path path).permissions := by
  rw [value_run a d document archive hroot hexcluded hextract] at hrun
  cases hrun
  exact permissions_analyse a d' _ e

/--
However policies and archives are read, the answer of an audit has the rules of its policy, and it
combines what its controllers contribute when each is analysed by itself on the extracted tree; the
permissions are those that are stored with the controllers. What one
contributes depends on no other one, and of the oracle on nothing but the answers to its own
questions. In another order the controllers leave the lacking rules as they are, and only order the
redundant permissions.
-/
theorem run_combines_alone (a : Audit) (d : Disk) (document : Policy.Document) (archive : Octets)
    (root : Xml.Element) (excluded : List String) (d' : Disk) (e : Extraction)
    (hroot : a.readers.policy document = .ok root) (hexcluded : a.exclusions = .ok excluded)
    (hextract : (extractFrom d (a.readers.archive archive) a.place excluded).value = (d', .ok e)) :
    let rules := (Policy.rulesIn root).value
    ∃ run, (a.run d document archive).value = (d', .ok run) ∧
      run.rules = rules ∧ run.extraction = e ∧
      run.permissions = e.controllers.flatMap (fun path => (a.alone d' e.path path).permissions) ∧
      run.permissions = run.controllers.flatMap (·.permissions) ∧
      run.controllers = e.controllers.filterMap (fun path => (a.alone d' e.path path).summary) ∧
      run.unresolved = e.controllers.flatMap (fun path => (a.alone d' e.path path).notes) ∧
      (∀ (o : Oracle) (path : String),
        (∀ q ∈ (a.alone d' e.path path).questions, a.oracle.AgreeOn o q) →
        { a with oracle := o }.alone d' e.path path = a.alone d' e.path path) ∧
      ∀ order : List String, order.Perm e.controllers →
        let other := (a.analyse d' rules { e with controllers := order }).value
        other.result.lacking = run.result.lacking ∧
          other.result.redundant.Perm run.result.redundant := by
  intro rules
  have hvalue := value_analyse a d' rules e
  refine ⟨(a.analyse d' rules e).value,
    value_run a d document archive hroot hexcluded hextract, ?_⟩
  refine ⟨?_, ?_, ?_, ?_, ?_, ?_, ?_, ?_⟩
  · rw [hvalue, Run.combined]
  · rw [hvalue, Run.combined]
  · exact permissions_analyse a d' rules e
  · rw [hvalue]
    exact Run.permissions_combined _ _ _ _
  · rw [hvalue, Run.combined, List.filterMap_map]
    rfl
  · rw [hvalue, Run.combined]
    exact List.flatMap_map ..
  · intro o path h
    exact alone_congr_oracle a d' e.path path h
  · intro order h
    have hrulesOf : (a.analyse d' rules { e with controllers := order }).value.rules =
        (a.analyse d' rules e).value.rules := by
      rw [value_analyse, value_analyse, Run.combined, Run.combined]
    -- a comparison sees the order of the controllers in the permissions only
    have hpermissions := permissions_analyse_order a d' rules e h
    dsimp only [Run.result]
    rw [hrulesOf]
    exact reconcile_order _ hpermissions

/-! ## An audit of two controllers -/

/-- The octets of a number, low one first. -/
def Archive.littleOctets : Nat → Nat → Octets
  | 0, _ => []
  | w + 1, n => UInt8.ofNat n :: littleOctets w (n / 256)

/-- What the headers of a file that is not packed say, from its checksum to the size of its name. -/
def Archive.storedSizes (name content : Octets) : Octets :=
  littleOctets 4 (checksum content) ++ littleOctets 4 content.length ++
    littleOctets 4 content.length ++ littleOctets 2 name.length ++ [0, 0]

/-- The entries of files that are not packed, and the lines of their directory. -/
def Archive.storedEntries (start : Nat) : List (String × String) → Octets × Octets
  | [] => ([], [])
  | (name, content) :: rest =>
    let name := Text.encodeUtf8 name
    let content := Text.encodeUtf8 content
    let entry :=
      headerMark ++ List.replicate 10 0 ++ storedSizes name content ++ name ++ content
    let line := entryMark ++ List.replicate 12 0 ++ storedSizes name content ++
      List.replicate 10 0 ++ littleOctets 4 start ++ name
    let (entries, lines) := storedEntries (start + entry.length) rest
    (entry ++ entries, line ++ lines)

/-- An archive of files that are not packed. -/
def Archive.stored (files : List (String × String)) : Octets :=
  let (entries, lines) := storedEntries 0 files
  entries ++ lines ++ endMark ++ List.replicate 8 0 ++ littleOctets 4 lines.length ++
    littleOctets 4 entries.length ++ [0, 0]

/-- An archive with the empty source of one controller. -/
def oneController : Octets :=
  Archive.stored [("src/a.controller.ts", "")]

/-- The source of a controller with one endpoint, which calls its service. -/
def bankController (endpoint : String) : String :=
  "@Controller()class A\x7bconstructor(s:AService)\x7b\x7d@Get()@Roles('T')" ++ endpoint ++
    "()\x7bthis.s." ++ endpoint ++ "()\x7d\x7d"

/-- The files of a project with two controllers and one service. -/
def bankFiles : List (String × String) :=
  [("src/a.controller.ts", bankController "list"), ("src/a.service.ts", "class AService\x7b\x7d"),
    ("src/b.controller.ts", bankController "show")]

/-- A policy with one rule for each controller. -/
def bankPolicy : String :=
  "<Policys><Module><Controller1>" ++
    "<Rule><Role>T</Role><Action>GET</Action><Resource>account</Resource></Rule>" ++
    "<Rule><Role>T</Role><Action>GET</Action><Resource>branch</Resource></Rule>" ++
  "</Controller1></Module></Policys>"

/-- A rule of the policy as an element. -/
def bankRule (resource : String) : Xml.Element :=
  .node "Rule" [] "" [.node "Role" [] "T" [] "", .node "Action" [] "GET" [] "",
    .node "Resource" [] resource [] ""] ""

/-- The policy as an element. -/
def bankRoot : Xml.Element :=
  .node "Policys" [] "" [.node "Module" [] "" [.node "Controller1" [] ""
    [bankRule "account", bankRule "branch"] ""] ""] ""

/-- Readers that know what the policy and the archive hold. -/
def bankReaders : Readers where
  policy _ := .ok bankRoot
  archive _ := .ok (bankFiles.map fun (name, text) => ⟨name, fun _ => .ok (Text.encodeUtf8 text)⟩)
  settings := Setting.ofYaml

/-- An oracle that fails when it is asked about a method, and else answers as another one. -/
def Oracle.failingAt (o : Oracle) (method : String) : Oracle where
  name := o.name
  entities methods source :=
    if methods.contains method then return .error "no answer" else o.entities methods source
  constraints := o.constraints

/-- An audit with an oracle that has an answer for each controller. -/
def bankAudit : Audit :=
  { plainAudit with
    usesBasePath := false
    oracle := Oracle.fixed [("list", "account"), ("show", "branch")] []
    readers := bankReaders }

/-- An oracle that answers as that of the audit, but fails at the second controller. -/
def failingOracle : Oracle :=
  bankAudit.oracle.failingAt "show"

/-- The disk after the extraction of the project. -/
def bankDisk : Disk where
  entries := [(["x"], .directory), (["x", "src"], .directory),
    (["x", "src", "a.controller.ts"], .file (Text.encodeUtf8 (bankController "list"))),
    (["x", "src", "a.service.ts"], .file (Text.encodeUtf8 "class AService\x7b\x7d")),
    (["x", "src", "b.controller.ts"], .file (Text.encodeUtf8 (bankController "show")))]
  workplace := []

def bankExtraction : Extraction where
  path := "/x"
  written := ["/x/src/a.controller.ts", "/x/src/a.service.ts", "/x/src/b.controller.ts"]
  controllers := ["/x/src/a.controller.ts", "/x/src/b.controller.ts"]
  skipped := 0

theorem extractFrom_bank :
    (extractFrom ⟨[], []⟩ (bankReaders.archive (Archive.stored bankFiles)) "/x" []).value =
      (bankDisk, .ok bankExtraction) := by
  decide +kernel

theorem permissions_failingOracle :
    bankExtraction.controllers.map (fun path =>
        ((bankAudit.asking failingOracle).alone bankDisk "/x" path).permissions) =
      [[⟨"T", "GET", "account", ""⟩], []] := by
  decide +kernel

theorem run_combines_alone_bank :
    ∃ run, ((bankAudit.asking failingOracle).run ⟨[], []⟩ (.text bankPolicy)
        (Archive.stored bankFiles)).value = (bankDisk, .ok run) ∧
      run.rules = [⟨"T", "GET", "account", ""⟩, ⟨"T", "GET", "branch", ""⟩] ∧
      run.extraction.controllers = ["/x/src/a.controller.ts", "/x/src/b.controller.ts"] ∧
      run.permissions = [⟨"T", "GET", "account", ""⟩] ∧
      run.permissions = run.controllers.flatMap (·.permissions) := by
  rcases run_combines_alone (bankAudit.asking failingOracle) ⟨[], []⟩ (.text bankPolicy)
    (Archive.stored bankFiles) _ [] bankDisk bankExtraction rfl rfl extractFrom_bank with
      ⟨run, hrun, hrules, hextraction, halone, hstored, -⟩
  have hpermissions : run.permissions = [⟨"T", "GET", "account", ""⟩] := by
    calc run.permissions
        = bankExtraction.controllers.flatMap _ := halone
      _ = [[⟨"T", "GET", "account", ""⟩], []].flatten :=
          congrArg List.flatten permissions_failingOracle
  refine ⟨run, hrun, ?_, ?_, hpermissions, hstored⟩
  · rw [hrules]
    decide +kernel
  · rw [hextraction]
    rfl

end RoleAudit
