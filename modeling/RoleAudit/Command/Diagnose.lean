import RoleAudit.Controller.Extraction
import RoleAudit.Extraction
import RoleAudit.Oracle.Static
import RoleAudit.Resolution.Resolver

/-!
# The command that explains a controller

Shows what an audit sees in one controller file: its endpoints, its service and its policies.

- `Diagnosis.projectOf`: the project of a controller file that is named alone;
- `Diagnosis.ofFile`: everything that is shown;
- `Diagnosis.run`: the command on a disk.
-/

namespace RoleAudit

open RoleAudit.Text

/-- What is found out about a controller. -/
structure Diagnosis where
  project : String
  facts : ControllerFacts
  service : ServiceResolution
  policies : PolicyResolution

namespace Diagnosis

/-- The nearest directory above a path that is the source directory, or the root. -/
def sourcesAbove : Nat → String → String
  | 0, path => path
  | fuel + 1, path =>
    -- the root is above itself
    if path == Path.parent path || Path.baseName path == sourceRoot then path
    else sourcesAbove fuel (Path.parent path)

/-- The project of a controller: what holds the source directory above it. -/
def projectOf (controller : String) : String :=
  let start := Path.parent controller
  Path.parent (sourcesAbove (start.length + 1) start)

/-- Find out what there is to know about a controller with a source. -/
def ofSource (d : Disk) (project controller source : String) : Traced Diagnosis := do
  let facts ← extractFacts true source
  let r := Resolver.usual project
  let (service, cache) := (resolveService d r facts (some controller)).run []
  service.report true
  let (policies, _) := (resolvePolicies d r facts (some controller)).run cache
  policies.report
  return ⟨project, facts, service, policies⟩

/-! ## Words -/

def rule : String := String.ofList (List.replicate 80 '=')

def orDash (s : String) : String := if s.isEmpty then "-" else s

def yesNo (b : Bool) : String := if b then "True" else "False"

def tableShown (entries : List (String × String)) : String :=
  "\x7b" ++ joinWith ", " (entries.map fun (k, v) => quoted k ++ ": " ++ quoted v) ++ "\x7d"

def pairsShown (pairs : List (String × String)) : String :=
  "[" ++ joinWith ", " (pairs.map fun (a, b) => "(" ++ quoted a ++ ", " ++ quoted b ++ ")") ++ "]"

def answersShown (answers : Except String Answers) : String :=
  match answers with
  | .ok entries => tableShown entries
  | .error e => e

/-- A headline between lines across. -/
def headline (s : String) : List String :=
  ["", rule, s, rule]

/-- An endpoint in words; of several endpoints of one name the first gives all but the line. -/
def endpointLine (f : ControllerFacts) (method : String) : String :=
  let line := (f.lines.lookup method).getD 0
  let action := (f.actions.lookup method).getD ""
  let roles := (f.roles.lookup method).getD []
  let policy := (f.policies.lookup method).getD ""
  "  line " ++ padLeft 4 (Decimal.natText line) ++ "  " ++ padRight 30 method ++ " " ++
    padRight 7 (orDash action) ++ " roles=" ++ quotedList roles ++ " policy=" ++ orDash policy

def factLines (f : ControllerFacts) : List String :=
  let name := if f.className.isEmpty then "<none>" else f.className
  headline s!"Controller: {name}  base path: '{f.basePath}'" ++
    f.methods.map (endpointLine f) ++
    ["", "Constructor params: " ++ pairsShown f.parameters, "Service calls:"] ++
    f.calls.map fun c => s!"  {c.caller} -> this.{c.property}.{c.method}()"

/-- How many candidates are shown at most. -/
def shownCandidates : Nat := 20

def serviceLines (s : ServiceResolution) : List String :=
  let found :=
    match s.located.found with
    | some (path, content) =>
      let entities := (Oracle.reading.entities s.methods content).value
      [s!"  File: {path}", "  Entities: " ++ answersShown entities]
    | none =>
      ("  Error: " ++ s.error.getD "None") ::
        (s.located.checked.take shownCandidates).map fun p => s!"    checked {p}"
  ["", s!"Service: {orDash s.serviceName}  success={yesNo s.success}"] ++ found

def policyLines (uses : List (String × String)) (p : PolicyResolution) : List String :=
  let error :=
    match p.error with
    | some e => ["  Error: " ++ e]
    | none => []
  let constraints :=
    if p.success then
      let answers := (Oracle.reading.constraints p.resolvedNames uses p.content).value
      ["  Constraints: " ++ answersShown answers]
    else []
  ["", "Policies: resolved=" ++ quotedList p.resolvedNames ++ " unresolved=" ++
    quotedList p.unresolvedNames] ++ error ++
    (p.groups.map fun g => s!"  {g.importPath}: " ++ g.path.getD "NOT FOUND") ++ constraints

def lines (d : Diagnosis) : List String :=
  factLines d.facts ++ headline s!"Resolution (project root: {d.project})" ++
    serviceLines d.service ++ policyLines d.facts.policies d.policies

/-- Lines as they are printed. -/
def printed (lines : List String) : String :=
  String.join (lines.map (· ++ "\n"))

def usage : String :=
  "Usage: python scripts/diagnose_controller_facts.py <path/to/x.controller.ts> [project_root]"

/-- Explain the controller at a path. -/
def ofFile (d : Disk) (controller : String) (project : Option String) :
    Traced (Except DiskError Diagnosis) := do
  let path := d.absolute controller
  match d.read path with
  | .error e => return .error e
  | .ok content =>
    let source := String.ofList (uniformLines (decodeLossy content))
    let root :=
      match project with
      | some p => d.absolute p
      | none => projectOf path
    return .ok (← ofSource d root path source)

def run (d : Disk) (arguments : List String) : Traced (Except DiskError (Nat × String)) := do
  match arguments with
  | [] => return .ok (1, printed [usage])
  | controller :: rest =>
    match ← ofFile d controller rest.head? with
    | .error e => return .error e
    | .ok found => return .ok (0, printed found.lines)

end Diagnosis
end RoleAudit
