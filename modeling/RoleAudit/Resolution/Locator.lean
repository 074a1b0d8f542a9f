import RoleAudit.Extraction
import RoleAudit.Naming
import RoleAudit.SourceFiles

/-!
# Candidate files

Where the file of a service or a policy may lie.

- `LookupContext`: what is known about a wanted file;
- `Locator`: a way to propose files: by the path of the import, by naming conventions, or by all
  files with a fitting name;
- `proposals`: what several ways propose, in order, each path once; `candidates`: the proposals of
  locators.
-/

namespace RoleAudit

/-- What a wanted file holds. -/
inductive FileKind where
  | service
  | policy
  deriving DecidableEq, Repr

/-- What is known about a wanted file. -/
structure LookupContext where
  project : String
  kind : FileKind
  classNames : List String
  importPath : String
  controllerDirectory : Option String
  moduleName : String

namespace LookupContext

def sources (c : LookupContext) : String :=
  Path.join c.project sourceRoot

/-- The path of the import with an ending; one that has an ending keeps it. -/
def importFile (c : LookupContext) : String :=
  let path := c.importPath
  if path.isEmpty || Text.endsWith path ".ts" || Text.endsWith path ".js" then path
  else path ++ ".ts"

end LookupContext

/-- A way to propose files. -/
inductive Locator where
  | importPath
  | naming
  | scan
  deriving DecidableEq, Repr

namespace Locator

/-- Files that the path of an import may mean. -/
def byImport (c : LookupContext) : List String :=
  let file := c.importFile
  if file.isEmpty then []
  else if Text.startsWith file "./" || Text.startsWith file "../" then
    -- the normal form takes back the dots of a path from the controller's directory
    let own :=
      match c.controllerDirectory with
      | some directory =>
        if directory.isEmpty then [] else [Path.normalize (Path.join directory file)]
      | none => []
    -- in a module or below the sources the path counts without its first dots
    let bare := Text.dropFirst file (if Text.startsWith file "./" then 2 else 3)
    let inModule :=
      if c.moduleName.isEmpty then [] else [Path.joinAll c.sources [c.moduleName, bare]]
    own ++ inModule ++ [Path.join c.sources bare]
  else if Text.startsWith file "@/" then [Path.join c.sources (Text.dropFirst file 2)]
  else if Text.startsWith file (sourceRoot ++ "/") then [Path.join c.project file]
  else [Path.join c.sources file, Path.join c.project file]

/-- Files where a service lies by convention. -/
def serviceFiles (c : LookupContext) : List String :=
  let file := Path.baseName c.importFile
  let below := Path.joinAll c.sources
  let m := c.moduleName
  let inModule :=
    if m.isEmpty then []
    else
      [below [m, m ++ ".service.ts"], below [m, "services", m ++ ".service.ts"]] ++
        (if file.isEmpty then [] else [below [m, "services", file]])
  let shared := if file.isEmpty then [] else [below ["services", file]]
  let named := c.classNames.flatMap fun name =>
    let stem := Naming.kebab (Naming.withoutService name)
    (if m.isEmpty then [] else [below [m, stem ++ ".service.ts"]]) ++
      [below [stem, stem ++ ".service.ts"], below [stem ++ ".service.ts"]]
  inModule ++ shared ++ named

/-- Files where a policy lies by convention. -/
def policyFiles (c : LookupContext) : List String :=
  let file := Path.baseName c.importFile
  let below := Path.joinAll c.sources
  let m := c.moduleName
  let inModule :=
    if m.isEmpty then []
    else
      (["policies", "policy"].flatMap fun folder =>
        below [m, folder, m ++ ".policy.ts"] ::
          (if file.isEmpty then [] else [below [m, folder, file]])) ++
        [below [m, m ++ ".policy.ts"]]
  inModule ++ (if file.isEmpty then [] else [below ["policies", file]])

/-- Files where a class lies by convention. -/
def byConvention (c : LookupContext) : List String :=
  match c.kind with
  | .service => serviceFiles c
  | .policy => policyFiles c

/-- The file name fits a kind. -/
def fits (kind : FileKind) (name : String) : Bool :=
  match kind with
  | .service => Naming.isServiceFile name
  | .policy => Naming.isPolicyFile name

/-- Files below the source directory whose names fit. -/
def byScan (d : Disk) (c : LookupContext) : List String :=
  filesMatching d c.sources (fits c.kind) usualLimit

def paths (d : Disk) (c : LookupContext) : Locator → List String
  | importPath => byImport c
  | naming => byConvention c
  | scan => byScan d c

/-- All locators, the most specific first. -/
def all : List Locator :=
  [importPath, naming, scan]

end Locator

/-- The files that several ways propose, in normal form, each once. -/
def proposals (locators : List (LookupContext → List String)) (c : LookupContext) : List String :=
  Text.distinct ((locators.flatMap fun propose => propose c).map Path.normalize)

def candidates (d : Disk) (locators : List Locator) (c : LookupContext) : List String :=
  proposals (locators.map fun locator c => locator.paths d c) c

end RoleAudit
