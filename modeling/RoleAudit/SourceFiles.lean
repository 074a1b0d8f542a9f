import RoleAudit.Disk

/-!
# Source files

The TypeScript files of a project on a disk.

- `sourceFiles`: all of them, the files of a directory before those of its directories, each in
  ascending order by code point; declarations and tests are left out, and so are directories that
  hold no sources;
- `filesMatching`: the first of them whose names satisfy a test;
- `readText?`: the text of a file, without what is not valid in it.
-/

namespace RoleAudit

/-- Directories that hold no sources. -/
def skippedDirectories : List String :=
  ["node_modules", ".git", "dist", "build", "coverage", ".idea", ".vscode"]

/-- The file holds source text by its name. -/
def isSourceFile (name : String) : Bool :=
  Text.endsWith name ".ts" && !Text.endsWith name ".d.ts" && !Text.endsWith name ".spec.ts"

/-- The names of the files of a directory, in order. -/
def fileNames (listed : List (String × DiskEntry)) : List String :=
  Text.sorted (listed.filterMap fun (name, e) =>
    match e with
    | .file _ => some name
    | .directory => none)

/-- The names of the directories of a directory that may hold sources, in order. -/
def directoryNames (listed : List (String × DiskEntry)) : List String :=
  Text.sorted (listed.filterMap fun (name, e) =>
    match e with
    | .file _ => none
    | .directory => if skippedDirectories.contains name then none else some name)

/-- The source files below a directory, down to a depth. -/
def sourceFilesFrom (d : Disk) : Nat → List String → String → List String
  | 0, _, _ => []
  | depth + 1, names, path =>
    let listed := d.list names
    ((fileNames listed).filter isSourceFile).map (Path.join path) ++
      (directoryNames listed).flatMap fun name =>
        sourceFilesFrom d depth (names ++ [name]) (Path.join path name)

def sourceFiles (d : Disk) (path : String) : List String :=
  match d.find path with
  -- a tree is not deeper than the number of things on the disk
  | .ok (names, .directory) => sourceFilesFrom d (d.entries.length + 1) names path
  | _ => []

/-- How many files a search gives at most, unless another number is given. -/
def usualLimit : Nat := 500

/-- The first source files whose names satisfy a test. -/
def filesMatching (d : Disk) (path : String) (test : String → Bool) (limit : Nat) : List String :=
  ((sourceFiles d path).filter fun p => test (Path.baseName p)).take limit

/-- A path as seen from a project; an absolute path stands for itself. -/
def inProject (project path : String) : String :=
  if Path.isAbsolute path then path else Path.join project path

/-- The text of a file: what is not UTF-8 is left out, and every line ends in a line feed. -/
def readText? (d : Disk) (project path : String) : Option String :=
  match d.find (inProject project path) with
  | .ok (_, .file content) =>
    some (String.ofList (Text.uniformLines (Text.decodeLossy content)))
  | _ => none

def projectRelative (project path : String) : String :=
  Path.relativeTo project (inProject project path)

end RoleAudit
