import RoleAudit.Controller.Extraction
import RoleAudit.Resolution.ClassMatch
import RoleAudit.Resolution.Locator

/-!
# Resolution across files

The files with the service and the policies that a controller uses.

- `Resolver`: a project with ways to propose files and ways to compare class names;
- `Strategies.locate`: the first candidate that defines all wanted classes; every candidate is tried
  with one way to find a class before the next way is used; `locate`: the same for a resolver;
- `resolveService`, `resolvePolicies`: the service of a controller, and its policies in groups by
  the path that they are imported from. A group is found only if one file defines all of its
  classes.

The text of a file is kept once it has been read. Not finding a file is no failure.
-/

namespace RoleAudit

/-- How files are looked for in a project. -/
structure Resolver where
  project : String
  locators : List Locator
  matchers : List ClassMatcher

def Resolver.usual (project : String) : Resolver :=
  ⟨project, Locator.all, [.exact, .anyCase]⟩

/-- Texts of files that were read, or that they could not be read. -/
abbrev TextCache := List (String × Option String)

/-- The text of a file, kept for later. -/
def readKept (d : Disk) (project path : String) : StateM TextCache (Option String) := do
  match (← get).lookup path with
  | some text => return text
  | none =>
    -- that a file could not be read is kept as well
    let text := readText? d project path
    modify fun cache => cache ++ [(path, text)]
    return text

/-- The first candidate whose text is accepted for all classes. -/
def firstAccepted (d : Disk) (project : String) (accepts : String → String → Bool)
    (names : List String) : List String → StateM TextCache (Option (String × String))
  | [] => return none
  | path :: rest => do
    match ← readKept d project path with
    | some text =>
      -- one file has to define all classes of a group
      if names.all (accepts text) then return some (path, text)
      else firstAccepted d project accepts names rest
    | none => firstAccepted d project accepts names rest

/-- The first candidate that is accepted by the first matcher that accepts one. -/
def firstLocated (d : Disk) (project : String) (names paths : List String) :
    List (String → String → Bool) → StateM TextCache (Option (String × String))
  | [] => return none
  | accepts :: rest => do
    -- all paths are tried with one matcher before the next one
    match ← firstAccepted d project accepts names paths with
    | some found => return some found
    | none => firstLocated d project names paths rest

/-- A file that was looked for. -/
structure Located where
  /-- Its path and its text, if there is one. -/
  found : Option (String × String)
  /-- The candidates. -/
  checked : List String
  deriving Repr

/-- Ways to propose files, and ways to find a class in a text, each in order of preference. -/
structure Strategies where
  locators : List (LookupContext → List String)
  matchers : List (String → String → Bool)

/-- Look for the file that defines the wanted classes. -/
def Strategies.locate (s : Strategies) (d : Disk) (project : String) (c : LookupContext) :
    StateM TextCache Located := do
  let paths := proposals s.locators c
  return ⟨← firstLocated d project c.classNames paths s.matchers, paths⟩

def Resolver.strategies (r : Resolver) (d : Disk) : Strategies :=
  ⟨r.locators.map fun locator c => locator.paths d c, r.matchers.map ClassMatcher.defines⟩

/-- Look for the file that defines the wanted classes as a resolver does. -/
def locate (d : Disk) (r : Resolver) (c : LookupContext) : StateM TextCache Located :=
  (r.strategies d).locate d r.project c

/-! ## Services -/

/-- The service of a controller. -/
structure ServiceResolution where
  serviceName : String
  property : String
  importPath : String
  located : Located
  /-- The methods that the controller calls, in ascending order. -/
  methods : List String
  error : Option String
  deriving Repr

namespace ServiceResolution

def success (s : ServiceResolution) : Bool :=
  s.located.found.isSome

def path (s : ServiceResolution) : Option String :=
  s.located.found.map (·.1)

/-- The text of the file, or the empty text. -/
def content (s : ServiceResolution) : String :=
  (s.located.found.map (·.2)).getD ""

end ServiceResolution

/-- The imported names that name a service, with their paths. -/
def serviceImports (imports : List ImportedName) : List (String × String) :=
  tableOf ((imports.filter fun i => Text.occursIn i.name "Service").map fun i => (i.name, i.path))

/-- The property and the class of the service that a controller uses. -/
def chosenService? (facts : ControllerFacts) : Option (String × String) :=
  let imported := serviceImports facts.imports
  -- an injected import counts before a parameter with a fitting name, and any import comes last
  let injected := facts.parameters.filter fun (_, type) => (imported.lookup type).isSome
  let named := facts.parameters.filter fun (_, type) => Text.endsWith type "Service"
  match injected, named, imported with
  | p :: _, _, _ => some p
  | [], p :: _, _ => some p
  | [], [], (name, _) :: _ => some ("", name)
  | [], [], [] => none

/-- The directory of a controller, if its path is known. -/
def directoryOf (controllerPath : Option String) : Option String :=
  match controllerPath with
  | some p => if p.isEmpty then none else some (Path.parent p)
  | none => none

/-- Look for the service of a controller. -/
def resolveService (d : Disk) (r : Resolver) (facts : ControllerFacts)
    (controllerPath : Option String) : StateM TextCache ServiceResolution := do
  match chosenService? facts with
  | none => return ⟨"", "", "", ⟨none, []⟩, [], some "Cannot find any service imports"⟩
  | some (property, name) =>
    let importPath := ((serviceImports facts.imports).lookup name).getD ""
    let methods := Text.sorted (Text.distinct ((facts.callsOn property).map (·.method)))
    let located ← locate d r
      { project := r.project
        kind := .service
        classNames := [name]
        importPath := importPath
        controllerDirectory := directoryOf controllerPath
        moduleName := Naming.moduleName facts.basePath }
    let error :=
      if located.found.isSome then none else some s!"Cannot find service content for {name}"
    return ⟨name, property, importPath, located, methods, error⟩

/-- Report how the search for a service ended. -/
def ServiceResolution.report (debug : Bool) (s : ServiceResolution) : Traced Unit :=
  match s.located.found, s.error with
  | some (path, _), _ =>
    Traced.noteIf debug .debug .resolver
      s!"[RESOLVER] {s.serviceName} -> {path} ({s.methods.length} methods)"
  | none, some error =>
    Traced.noteIf (!s.serviceName.isEmpty) .warning .resolver
      s!"[RESOLVER] {error} ({s.located.checked.length} paths checked)"
  | none, none => pure ()

/-! ## Policies -/

/-- The policies that a controller imports from one path. -/
structure PolicyGroup where
  importPath : String
  names : List String
  located : Located
  deriving Repr

namespace PolicyGroup

def success (g : PolicyGroup) : Bool :=
  g.located.found.isSome

def path (g : PolicyGroup) : Option String :=
  g.located.found.map (·.1)

/-- The text of the file, or the empty text. -/
def content (g : PolicyGroup) : String :=
  (g.located.found.map (·.2)).getD ""

end PolicyGroup

/-- The policies of a controller. -/
structure PolicyResolution where
  groups : List PolicyGroup
  error : Option String
  deriving Repr

namespace PolicyResolution

/-- Some group was found. -/
def success (p : PolicyResolution) : Bool :=
  p.groups.any PolicyGroup.success

/-- The texts of the groups that were found. -/
def content (p : PolicyResolution) : String :=
  Text.joinWith "\n\n" ((p.groups.filter PolicyGroup.success).map PolicyGroup.content)

def resolvedNames (p : PolicyResolution) : List String :=
  (p.groups.filter PolicyGroup.success).flatMap (·.names)

def unresolvedNames (p : PolicyResolution) : List String :=
  (p.groups.filter fun g => !g.success).flatMap (·.names)

end PolicyResolution

/-- Add a name to the group of a path. -/
def addToGroup (groups : List (String × List String)) (i : ImportedName) :
    List (String × List String) :=
  setEntry i.path (((groups.lookup i.path).getD []) ++ [i.name]) groups

/-- The imported names that name a policy, in groups by path. -/
def policyGroups (imports : List ImportedName) : List (String × List String) :=
  (imports.filter fun i => Text.occursIn i.name "Policy").foldl addToGroup []

def resolveGroup (d : Disk) (r : Resolver) (facts : ControllerFacts)
    (controllerPath : Option String) (importPath : String) (names : List String) :
    StateM TextCache PolicyGroup := do
  let located ← locate d r
    { project := r.project
      kind := .policy
      classNames := names
      importPath := importPath
      controllerDirectory := directoryOf controllerPath
      moduleName := Naming.moduleName facts.basePath }
  return ⟨importPath, names, located⟩

/-- Look for the policies of a controller. -/
def resolvePolicies (d : Disk) (r : Resolver) (facts : ControllerFacts)
    (controllerPath : Option String) : StateM TextCache PolicyResolution := do
  match policyGroups facts.imports with
  | [] => return ⟨[], some "Cannot find any policy imports"⟩
  | groups =>
    let found ← groups.mapM fun (path, names) => resolveGroup d r facts controllerPath path names
    return ⟨found, none⟩

/-- Report the groups that were not found. -/
def PolicyResolution.report (p : PolicyResolution) : Traced Unit :=
  p.groups.forM fun g =>
    Traced.noteIf (!g.success) .warning .resolver
      ("[RESOLVER] Cannot find policy content for " ++ Text.joinWith ", " g.names)

end RoleAudit
