import RoleAudit.Archive.Content
import RoleAudit.Disk
import RoleAudit.Log

/-!
# Extraction of a project

The sources of a project arrive in an archive. Only what lies under the source directory is taken,
except for some directories; it replaces what was at the place of extraction before.

- `isSourceEntry`: an entry belongs to the sources;
- `wrapperOf`, `relativeName?`: a directory around the whole project, and names without it;
- `extractFrom`: the disk after the entries of an open archive are extracted, and what was written.
  When an entry fails, what was written before it stays, and so does the empty file that was opened
  for it;
- `extract`: the same for an archive that is still to be opened.
-/

namespace RoleAudit

def sourceRoot : String := "src"

def controllerEnding : String := ".controller.ts"

/-- The directories that are left out unless others are given. -/
def usualExclusions : List String := ["auth", "user"]

/-- Directories that archives carry beside the project. -/
def archiveMetadata : List String := ["__MACOSX"]

/-! ## Selection -/

/-- The directories of an entry under the source directory. -/
def directoriesOf (isDirectory : Bool) (parts : List String) : List String :=
  -- the last name of a file is no directory
  if isDirectory then parts.drop 1 else (parts.drop 1).dropLast

/-- An entry belongs to the sources and lies in none of the excluded directories. -/
def isSourceEntry (relative : String) (isDirectory : Bool) (excluded : List String) : Bool :=
  let parts := Path.parts relative
  match parts.head?, parts.getLast? with
  | some first, some last =>
    first == sourceRoot && (isDirectory || !Text.startsWith last "._") &&
      !(directoriesOf isDirectory parts).any excluded.contains
  | _, _ => false

/-- A name with slashes in place of backslashes. -/
def slashed (name : String) : String :=
  Text.swap '\\' '/' name

/-- The text before the first slash. -/
def firstPart (name : String) : String :=
  (Path.segments name).headD ""

def isUnderSources (name : String) : Bool :=
  name == sourceRoot || Text.startsWith name (sourceRoot ++ "/")

/--
The directory, with a slash, that holds the whole project: there is one if no entry lies in the
source directory itself and all entries that count share their first name.
-/
def wrapperOf (names : List String) : String :=
  let clean := (names.filter fun n => !n.isEmpty).map slashed
  if clean.any isUnderSources then ""
  else
    -- hidden entries and those of other tools say nothing about the project
    let counted := clean.filter fun n =>
      !archiveMetadata.contains (firstPart n) && !Text.startsWith n "."
    match Text.distinct (counted.map firstPart) with
    | [first] =>
      let wrapper := first ++ "/"
      -- a directory without sources in it is no wrapper
      if clean.any fun n => Text.startsWith n (wrapper ++ sourceRoot ++ "/") then wrapper else ""
    | _ => ""

/-- The name of an entry inside the wrapper; nothing outside it has one, nor the wrapper itself. -/
def relativeName? (wrapper name : String) : Option String :=
  let clean := slashed name
  if Text.startsWith clean wrapper then
    let rest := Text.dropFirst clean wrapper.toList.length
    if rest.isEmpty then none else some rest
  else none

/-! ## Extraction -/

/-- What an extraction has done. -/
structure Extraction where
  path : String
  written : List String
  controllers : List String
  skipped : Nat
  deriving DecidableEq, Repr

def Extraction.sources (e : Extraction) : String :=
  Path.join e.path sourceRoot

/-- Why an extraction fails. -/
inductive ExtractionError where
  /-- The archive cannot be opened. -/
  | unreadable (fault : Archive.Fault)
  /-- An entry cannot be read. -/
  | brokenEntry (fault : Archive.Fault)
  /-- An entry cannot be written. -/
  | unwritable (error : DiskError)
  /-- What was at the place of extraction cannot be removed. -/
  | unremovable (cause : KeptCause) (path : String)
  /-- An entry would be written outside the place of extraction. -/
  | escapes (name : String)
  deriving DecidableEq, Repr

namespace ExtractionError

/-- The fault of an archive that uses what is not supported; it stands for itself. -/
def unsupported? : ExtractionError → Option Archive.Fault
  | unreadable fault => if fault.isBroken then none else some fault
  | brokenEntry fault => if fault.isRefusal then none else some fault
  | _ => none

def message : ExtractionError → String
  | unreadable fault =>
    if fault.isBroken then "Project archive is not a valid zip file: " ++ fault.message
    else fault.message
  | brokenEntry fault =>
    if fault.isRefusal then "Failed to extract project archive: " ++ fault.message
    else fault.message
  | unwritable error => "Failed to extract project archive: " ++ error.message
  | unremovable cause path => "Failed to extract project archive: " ++ cause.message path
  | escapes name => "Archive entry escapes extraction directory: " ++ name

end ExtractionError

/-- A step of an extraction; what it did to the disk stays when it fails. -/
abbrev Extracting (α : Type) := ExceptT ExtractionError (StateM Disk) α

/-- Change the disk; what was done stays when it fails. -/
def changing (act : Disk → Disk × Except DiskError Unit) : Extracting Unit := do
  let (d, result) := act (← get)
  set d
  match result with
  | .ok _ => pure ()
  | .error e => throw (.unwritable e)

/-- Change the disk, or fail and leave it. -/
def onDisk (act : Disk → Except DiskError Disk) : Extracting Unit := do
  match act (← get) with
  | .ok d => set d
  | .error e => throw (.unwritable e)

/-- Where an entry goes; it has to lie at the root or below it. -/
def targetOf (root relative : String) : Except ExtractionError String :=
  let target := Path.absolute root relative
  -- a slash after the root: a sibling whose name begins as the root's lies outside
  if target == root || Text.startsWith target (root ++ "/") then .ok target
  else .error (.escapes relative)

/-- An entry to extract, with its name inside the project. -/
structure Wanted where
  relative : String
  entry : Archive.Entry

/-- The entries that belong to the sources. -/
def wantedOf (wrapper : String) (excluded : List String) (entries : List Archive.Entry) :
    List Wanted :=
  entries.filterMap fun e =>
    match relativeName? wrapper e.name with
    | some relative =>
      if isSourceEntry relative e.isDirectory excluded then some ⟨relative, e⟩ else none
    | none => none

/-- Remove what is at the place of extraction; a file there is refused. -/
def clearPlace (path : String) : Extracting Unit := do
  match (← get).find path with
  | .error _ => pure ()
  | .ok (_, .file _) => throw (.unwritable ⟨.notDirectory, path⟩)
  | .ok (names, .directory) =>
    let (d, kept) := (← get).removeDirectory path names
    set d
    match kept with
    | none => pure ()
    | some cause => throw (.unremovable cause path)

def makeEntryDirectory (root : String) (w : Wanted) : Extracting Unit := do
  let target ← targetOf root w.relative
  changing fun d => d.makePath target

/-- Write the file of an entry; the file is there before its data is read. -/
def writeEntry (root : String) (w : Wanted) : Extracting String := do
  let target ← targetOf root w.relative
  changing fun d => d.makePath (Path.parent target)
  -- the file is opened first, so an entry that cannot be read leaves it empty
  onDisk fun d => d.write target []
  match w.entry.data () with
  | .error fault => throw (.brokenEntry fault)
  | .ok data =>
    onDisk fun d => d.write target data
    return target

/-- Extract entries to a new directory, directories first. -/
def extractAll (path : String) (wanted : List Wanted) : Extracting (List (String × String)) := do
  clearPlace path
  changing fun d => d.makePath path
  let root := (← get).absolute path
  (wanted.filter fun w => w.entry.isDirectory).forM (makeEntryDirectory root)
  (wanted.filter fun w => !w.entry.isDirectory).mapM fun w => do
    return (w.relative, ← writeEntry root w)

/-- Extract the sources among the entries of an archive to a path, if the archive can be opened. -/
def extractFrom (d : Disk) (opened : Except Archive.Fault (List Archive.Entry)) (path : String)
    (excluded : List String) : Traced (Disk × Except ExtractionError Extraction) :=
  match opened with
  | .error fault => return (d, .error (.unreadable fault))
  | .ok entries => do
    let wrapper := wrapperOf (entries.map (·.name))
    Traced.noteIf (!wrapper.isEmpty) .debug .extraction
      s!"[EXTRACTOR] Stripping wrapper directory '{wrapper}'"
    let wanted := wantedOf wrapper excluded entries
    let run := (extractAll path wanted).run.run d
    match run.1 with
    | .error e => return (run.2, .error e)
    | .ok files =>
      let written := files.map (·.2)
      let controllers :=
        (files.filter fun (relative, _) => Text.endsWith relative controllerEnding).map (·.2)
      -- directories that are taken count neither as written nor as skipped
      let skipped := entries.length - wanted.length
      Traced.note .info .extraction
        (s!"[EXTRACTOR] Extracted {written.length} files ({controllers.length} controllers, " ++
          s!"{skipped} entries skipped) to {path}")
      return (run.2, .ok ⟨path, written, controllers, skipped⟩)

/-- Extract the sources in an archive to a path. -/
def extract (d : Disk) (archive : Octets) (path : String) (excluded : List String) :
    Traced (Disk × Except ExtractionError Extraction) :=
  extractFrom d (Archive.opened archive) path excluded

end RoleAudit
