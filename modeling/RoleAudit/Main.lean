import RoleAudit.Command.Check
import Std.Time.DateTime
import Std.Time.Format

/-!
# The command on a machine

What the command needs is copied from the machine to a disk, the command runs on that disk, and what
is different afterwards is copied back.

- `Machine.load`: the disk that a path needs;
- `Machine.store`: the differences between two disks, brought to the machine;
- `main`: the command.
-/

namespace RoleAudit
namespace Machine

open RoleAudit.Text

/-! ## From the machine to a disk -/

/-- The path of names on the machine. -/
def pathOf (names : List String) : String :=
  "/" ++ joinWith "/" names

/-- What a path leads to on the machine. -/
def look (path : String) : IO (Option DiskEntry) := do
  match ← (IO.FS.realPath path).toBaseIO with
  | .error _ => return none
  | .ok real =>
    if ← real.isDir then return some .directory
    match ← (IO.FS.readBinFile real).toBaseIO with
    | .error _ => return none
    | .ok content => return some (.file content.toList)

/-- A disk with what names lead to on the machine. -/
def loadOne (d : Disk) (names : List String) : IO Disk := do
  if (d.at? names).isSome then return d
  match ← look (pathOf names) with
  | none => return d
  | some e => return d.put names e

/-- The names that lead through a path, one step after the other. -/
def steps (here : List String) : List String → List (List String)
  | [] => []
  | segment :: rest =>
    let next :=
      if segment == "" || segment == "." then here
      else if segment == ".." then here.dropLast
      else here ++ [segment]
    next :: steps next rest

/-- A disk with what a path leads to and leads through. -/
def load (d : Disk) (path : String) : IO Disk :=
  (steps (if Path.isAbsolute path then [] else d.workplace) (Path.segments path)).foldlM loadOne d

/-- A bound for the depth of a tree; no path on a machine has more names. -/
def depthLimit : Nat := 4096

/-- A disk with what names lead to and everything below it. -/
def loadTree : Nat → Disk → List String → IO Disk
  | 0, d, _ => return d
  | depth + 1, d, names => do
    let d ← loadOne d names
    match d.at? names with
    | some .directory =>
      let real ← IO.FS.realPath (pathOf names)
      (← real.readDir).toList.foldlM (fun d e => loadTree depth d (names ++ [e.fileName])) d
    | _ => return d

/-! ## From a disk to the machine -/

/-- Remove what is not on a disk any more. -/
def remove (after : Disk) (gone : List String × DiskEntry) : IO Unit := do
  let (names, entry) := gone
  if (after.at? names).isSome then return
  match entry, after.at? names.dropLast with
  | _, none => return
  | .directory, _ => IO.FS.removeDirAll (pathOf names)
  | .file _, _ => IO.FS.removeFile (pathOf names)

/-- Write what a disk has in another way than before. -/
def write (before : Disk) (kept : List String × DiskEntry) : IO Unit := do
  let (names, entry) := kept
  if before.at? names == some entry then return
  match entry with
  | .directory => IO.FS.createDirAll (pathOf names)
  | .file content => do
    IO.FS.createDirAll (pathOf names.dropLast)
    IO.FS.writeBinFile (pathOf names) (ByteArray.mk content.toArray)

/-- Bring the differences between two disks to the machine. -/
def store (before after : Disk) : IO Unit := do
  before.entries.forM (remove after)
  after.entries.forM (write before)

/-! ## Surroundings -/

/-- The variables that are set, of some names. -/
def setVariables (names : List String) : IO (List (String × String)) := do
  let found ← names.mapM fun n => do return (n, ← IO.getEnv n)
  return found.filterMap fun (n, v) => v.map fun v => (n, v)

/-- The directory for files of short life. -/
def temporary : IO String := do
  let named ← setVariables ["TMPDIR", "TEMP", "TMP"]
  return ((named.map (·.2)).find? fun v => !v.isEmpty).getD "/tmp"

/-- A random number in the form of a universal identifier. -/
def identifier (octets : List UInt8) : String :=
  let digits := octets.flatMap fun o => hexDigits 2 o.toNat
  let digits := (digits.set 12 '4').set 16 ("89ab".toList.getD ((octets.getD 8 0).toNat % 4) '8')
  let part (start count : Nat) : String := String.ofList ((digits.drop start).take count)
  joinWith "-" [part 0 8, part 8 4, part 12 4, part 16 4, part 20 12]

/-- The written form of a moment. -/
def momentFormat : String := "uuuu-MM-dd'T'HH:mm:ss.SSSSSS'Z'"

/-- What tells this report from another. -/
def stamp : IO ReportStamp := do
  let octets ← IO.getRandomBytes 16
  let now ← Std.Time.Timestamp.now
  let moment := (Std.Time.DateTime.ofTimestampWithZone now .UTC).format momentFormat
  return ⟨"urn:uuid:" ++ identifier octets.toList, moment⟩

/-- What surrounds a command on this machine, where no service is at hand. -/
def surroundings : IO CheckCommand.Surroundings := do
  return {
    environment := ← setVariables (Field.all.map Field.variableName)
    temporary := ← temporary
    services := .none "No module named 'boto3'" "No module named 'anthropic'"
    stamp := ← stamp }

/-- The directory where relative paths start. -/
def workplace : IO (List String) := do
  return Path.names (← IO.currentDir).toString

/-- The options and operands that name files. -/
def fileKeys : List String := ["config", "policy", "archive", "output"]

/-- The disk that the values of options and operands need. -/
def diskFor (s : CheckCommand.Surroundings) (values : List (String × String)) : IO Disk := do
  let d ← load ⟨[], ← workplace⟩ "."
  let d ← (fileKeys.filterMap fun k => values.lookup k).foldlM load d
  match (CheckCommand.configurationOf s d values).value with
  | .error _ => return d
  | .ok c =>
    match c.place with
    | .error _ => return d
    | .ok place =>
      let d ← load d place
      match d.place place with
      | .error _ => return d
      | .ok names => loadTree depthLimit d names

/-- The least severity that is printed. -/
def leastSeverity (values : List (String × String)) : Severity :=
  if (values.lookup Field.debug.name).isSome then .debug else .info

/-- Print the records that are severe enough. -/
def printLog (least : Severity) (log : List LogRecord) : IO Unit :=
  (log.filter fun r => least.rank ≤ r.severity.rank).forM fun r => IO.eprintln r.line

/-! ## The command -/

/-- Run the command on this machine; the code that it ends with. -/
def run (arguments : List String) : IO UInt32 := do
  let s ← surroundings
  let values :=
    match CheckCommand.grammar.read arguments with
    | .ok (.values values) => values
    | _ => []
  let before ← diskFor s values
  let traced := CheckCommand.run s before arguments
  let (after, result) := traced.value
  printLog (leastSeverity values) traced.log
  store before after
  match result with
  | .error e =>
    IO.eprintln e.message
    return 1
  | .ok finished =>
    IO.print finished.output
    IO.eprint finished.errors
    return UInt32.ofNat finished.code

end Machine
end RoleAudit

/-- The command. -/
def main (arguments : List String) : IO UInt32 :=
  RoleAudit.Machine.run arguments
