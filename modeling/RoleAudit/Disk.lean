import RoleAudit.Path
import RoleAudit.Text.Encoding
import RoleAudit.Text.Quoted

/-!
# Disks

A tree of directories and files, without links.

- `Disk`: what exists, each thing under the list of names that leads to it;
- `find`: what a path leads to; names are followed one by one, so a path through something that does
  not exist fails even if it comes back later;
- `read`, `write`, `makeDirectory`, `makePath`, `removeDirectory`: the operations, with the errors
  that they can end in. What a failed operation has done before stays.

The order in which a disk lists things carries no meaning.
-/

namespace RoleAudit

/-- Why an operation on a disk fails. -/
inductive DiskCause where
  | missing
  | occupied
  | notDirectory
  | isDirectory
  | nameTooLong
  deriving DecidableEq, Repr

namespace DiskCause

def number : DiskCause → Nat
  | missing => 2
  | occupied => 17
  | notDirectory => 20
  | isDirectory => 21
  | nameTooLong => 36

def text : DiskCause → String
  | missing => "No such file or directory"
  | occupied => "File exists"
  | notDirectory => "Not a directory"
  | isDirectory => "Is a directory"
  | nameTooLong => "File name too long"

end DiskCause

/-- A failed operation on a disk. -/
structure DiskError where
  cause : DiskCause
  path : String
  deriving DecidableEq, Repr

def DiskError.message (e : DiskError) : String :=
  s!"[Errno {e.cause.number}] {e.cause.text}: " ++ Text.quoted e.path

/-- Why a directory stays although what was below it is removed. -/
inductive KeptCause where
  /-- Its path leads through something that is removed. -/
  | missing
  /-- It is the root. -/
  | busy
  /-- Its path ends in a dot. -/
  | invalid
  deriving DecidableEq, Repr

namespace KeptCause

def number : KeptCause → Nat
  | missing => 2
  | busy => 16
  | invalid => 22

def text : KeptCause → String
  | missing => "No such file or directory"
  | busy => "Device or resource busy"
  | invalid => "Invalid argument"

end KeptCause

/-- A directory that could not be removed, in words. -/
def KeptCause.message (cause : KeptCause) (path : String) : String :=
  s!"[Errno {cause.number}] {cause.text}: " ++ Text.quoted path

/-- A thing on a disk. -/
inductive DiskEntry where
  | directory
  | file (content : Octets)
  deriving DecidableEq, Repr

/-- What exists, each thing under the names that lead to it from the root. -/
structure Disk where
  entries : List (List String × DiskEntry)
  /-- The directory where relative paths start. -/
  workplace : List String
  deriving DecidableEq, Repr

namespace Disk

/-- The thing that names lead to; no name leads to the root. -/
def at? (d : Disk) (names : List String) : Option DiskEntry :=
  if names.isEmpty then some .directory else d.entries.lookup names

/-- Put a thing where names lead, in place of what is there. -/
def put (d : Disk) (names : List String) (e : DiskEntry) : Disk :=
  { d with entries := d.entries.filter (fun (n, _) => n != names) ++ [(names, e)] }

def nameLimit : Nat := 255

/-- Follow one name from a directory. -/
def follow (d : Disk) (here : List String) (segment : String) : Except DiskCause (List String) :=
  match d.at? here with
  | none => .error .missing
  | some (.file _) => .error .notDirectory
  | some .directory =>
    -- a step needs a directory to start from, even one that stays or goes back
    if segment == "" || segment == "." then .ok here
    else if segment == ".." then .ok here.dropLast
    -- a name counts in octets, not in characters
    else if nameLimit < (Text.encodeUtf8 segment).length then .error .nameTooLong
    else .ok (here ++ [segment])

def start (d : Disk) (path : String) : List String :=
  if Path.isAbsolute path then [] else d.workplace

def place (d : Disk) (path : String) : Except DiskCause (List String) :=
  if path.isEmpty then .error .missing
  else (Path.segments path).foldlM d.follow (d.start path)

def find (d : Disk) (path : String) : Except DiskCause (List String × DiskEntry) := do
  let names ← d.place path
  match d.at? names with
  | some e => return (names, e)
  | none => throw .missing

/-- A path from the root in normal form. -/
def absolute (d : Disk) (path : String) : String :=
  Path.absolute (Path.fromRoot d.workplace) path

def isThere (d : Disk) (path : String) : Bool :=
  match d.find path with
  | .ok _ => true
  | .error _ => false

def isDirectory (d : Disk) (path : String) : Bool :=
  match d.find path with
  | .ok (_, .directory) => true
  | _ => false

def read (d : Disk) (path : String) : Except DiskError Octets :=
  match d.find path with
  | .ok (_, .file content) => .ok content
  | .ok (_, .directory) => .error ⟨.isDirectory, path⟩
  | .error cause => .error ⟨cause, path⟩

/-- The names in a directory, in the order of the disk. -/
def list (d : Disk) (names : List String) : List (String × DiskEntry) :=
  d.entries.filterMap fun (n, e) =>
    match n.getLast? with
    -- a thing lies in a directory if one name leads from there to it
    | some last => if n.dropLast == names then some (last, e) else none
    | none => none

/-- A path without slashes at its end. -/
def bare (path : String) : String :=
  let cs := path.toList.reverse.dropWhile (· == '/')
  if cs.isEmpty then path else String.ofList cs.reverse

/-- Remove all below a thing. -/
def emptied (d : Disk) (names : List String) : Disk :=
  { d with entries := d.entries.filter fun (n, _) => n == names || !names.isPrefixOf n }

def removeTree (d : Disk) (names : List String) : Disk :=
  { d with entries := d.entries.filter fun (n, _) => !names.isPrefixOf n }

/--
Remove all below the directory that a path leads to, then the directory itself. It stays if the path
leads through what was below it or ends in a dot, and so does the root.
-/
def removeDirectory (d : Disk) (path : String) (names : List String) : Disk × Option KeptCause :=
  let d := d.emptied names
  -- the path is followed again, now that what lay below is gone
  match d.place path with
  | .error _ => (d, some .missing)
  | .ok _ =>
    if Path.baseName (bare path) == "." then (d, some .invalid)
    else if names.isEmpty then (d, some .busy)
    else (d.removeTree names, none)

/-- Make one directory in an existing one. -/
def makeDirectory (d : Disk) (path : String) : Except DiskError Disk :=
  match d.place (bare path) with
  | .error cause => .error ⟨cause, path⟩
  | .ok names =>
    match d.at? names with
    | some _ => .error ⟨.occupied, path⟩
    | none => .ok (d.put names .directory)

/-- The path above a path, as far as it is written. -/
def above (path : String) : String :=
  if (Path.baseName path).isEmpty then Path.parent (Path.parent path) else Path.parent path

/-- Make one directory, unless it is there. -/
def ensureDirectory (d : Disk) (path : String) : Disk × Except DiskError Unit :=
  match d.makeDirectory path with
  | .ok made => (made, .ok ())
  -- whatever the failure was, a directory that is there will do
  | .error e => if d.isDirectory path then (d, .ok ()) else (d, .error e)

/--
Make a directory and those above it that are not there. A step bound stands for the number of names
in the path. That something else is in the place of a directory above shows at the next step.
-/
def makePathFrom : Nat → Disk → String → Disk × Except DiskError Unit
  | 0, d, _ => (d, .ok ())
  | steps + 1, d, path =>
    let upper := above path
    -- the walk up ends where something is there, at the latest at the start of the path
    if upper.isEmpty || d.isThere upper then d.ensureDirectory path
    else
      match makePathFrom steps d upper with
      | (d, .ok _) => d.ensureDirectory path
      | (d, .error e) => if e.cause == .occupied then d.ensureDirectory path else (d, .error e)

def makePath (d : Disk) (path : String) : Disk × Except DiskError Unit :=
  makePathFrom (path.length + 1) d path

/-- The disk with a directory and those above it, if all of them can be made. -/
def makeDirectories (d : Disk) (path : String) : Except DiskError Disk :=
  match d.makePath path with
  | (d, .ok _) => .ok d
  | (_, .error e) => .error e

/-- Write a file in an existing directory, in place of one that is there. -/
def write (d : Disk) (path : String) (content : Octets) : Except DiskError Disk :=
  match d.place path with
  | .error cause => .error ⟨cause, path⟩
  | .ok names =>
    match d.at? names with
    | some .directory => .error ⟨.isDirectory, path⟩
    | _ => .ok (d.put names (.file content))

end Disk

end RoleAudit
