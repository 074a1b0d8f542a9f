import RoleAudit.Assistant.Client
import RoleAudit.Audit.Report
import RoleAudit.Command.Arguments
import RoleAudit.Json.Printer

/-!
# The command that checks a project

`permcheck policy archive` compares a policy document with the project in an archive and prints the
differences.

- `CheckCommand.grammar`, `usage`, `help`: how the command is called;
- `CheckCommand.configurationOf`: the settings; an option counts before a variable, and a variable
  before the document;
- `CheckCommand.run`: the command on a disk: what it prints, how it ends, and the disk afterwards.

A faulty policy, archive or configuration and a file that cannot be read end the command with a
message. Other failures interrupt it.
-/

namespace RoleAudit
namespace CheckCommand

open RoleAudit.Command RoleAudit.Text

/-! ## How the command is called -/

/-- The options and the operands. -/
def grammar : Grammar where
  options := [
    ⟨"help", ["-h", "--help"], .help⟩,
    ⟨"config", ["--config"], .value []⟩,
    ⟨"oracle", ["--oracle"], .value Field.oracle.choices⟩,
    ⟨"resource_strategy", ["--resource-strategy"], .value Field.resourceStrategy.choices⟩,
    ⟨"completeness", ["--completeness"], .value Field.completeness.choices⟩,
    ⟨"output", ["--output", "-o"], .value []⟩,
    ⟨"debug", ["--debug"], .switch⟩]
  operands := ["policy", "archive"]

def usage : String :=
  "usage: permcheck [-h] [--config CONFIG] [--oracle \x7bstatic,llm\x7d]\n" ++
  "                 [--resource-strategy \x7bentity,base_path\x7d]\n" ++
  "                 [--completeness \x7ball_facts,condition_optional\x7d]\n" ++
  "                 [--output OUTPUT] [--debug]\n" ++
  "                 policy archive\n"

def help : String :=
  usage ++ "\n" ++
  "Compare an XML policy document with the permissions a NestJS project\n" ++
  "implements\n\n" ++
  "positional arguments:\n" ++
  "  policy                XML policy document\n" ++
  "  archive               Zip archive of the NestJS project\n\n" ++
  "options:\n" ++
  "  -h, --help            show this help message and exit\n" ++
  "  --config CONFIG       YAML config file\n" ++
  "  --oracle \x7bstatic,llm\x7d\n" ++
  "                        Entity/constraint resolution oracle\n" ++
  "  --resource-strategy \x7bentity,base_path\x7d\n" ++
  "                        How the resource of a permission is derived\n" ++
  "  --completeness \x7ball_facts,condition_optional\x7d\n" ++
  "                        Which facts a method needs to count as implemented\n" ++
  "  --output OUTPUT, -o OUTPUT\n" ++
  "                        Write a full JSON report to this path\n" ++
  "  --debug               Enable debug output\n"

/-! ## How the command ends -/

/-- What a command prints, and the code that it ends with. -/
structure Finished where
  code : Nat
  output : String
  errors : String

/-- What interrupts a command. -/
inductive Interruption where
  | config (error : ConfigError)
  | place (error : PlaceError)
  | audit (error : AuditError)
  | disk (error : DiskError)

def Interruption.message : Interruption → String
  | config error => error.message
  | place error => error.message
  | audit error => error.message
  | disk error => error.message

/-- A faulty configuration is answered with a message, unless a value of it is none. -/
def isAnswered : ConfigError → Bool
  | .nameNotText _ => false
  | .namesNotOrdered _ _ => false
  | .notUtf8 _ => false
  | .badValue _ => false
  | .notShowable => false
  | _ => true

/-- A failed audit is answered with a message, unless it cannot handle what it is given. -/
def isAnsweredFailure : AuditError → Bool
  | .policy e => e.isRefusal
  | .exclusions _ => false
  | .extraction e => e.unsupported?.isNone

/-- An interruption is answered with a message. -/
def Interruption.isAnswered : Interruption → Bool
  | config error => CheckCommand.isAnswered error
  | place _ => false
  | audit error => isAnsweredFailure error
  | disk _ => true

def failed (message : String) : Finished :=
  ⟨1, "", "✗ " ++ message ++ "\n"⟩

/-! ## The work of the command -/

/-- What surrounds a command. -/
structure Surroundings where
  environment : List (String × String)
  /-- The directory for files of short life. -/
  temporary : String
  services : Services
  stamp : ReportStamp

/-- The fields that options give. -/
def optionFields (values : List (String × String)) : List (Field × Setting) :=
  [Field.oracle, Field.resourceStrategy, Field.completeness, Field.debug].filterMap fun f =>
    (values.lookup f.name).map fun v => (f, if f.kind == .flag then .bool true else .text v)

/-- The configuration that the document, the variables and the options give. -/
def configurationOf (s : Surroundings) (d : Disk) (values : List (String × String))
    (readers : Readers := Readers.usual) : Traced (Except ConfigError Configuration) := do
  let loaded ←
    Configuration.load d s.temporary (values.lookup "config") s.environment readers.settings
  return loaded.bind fun c => c.override (optionFields values)

/-- The policy and the archive that the operands name. -/
def inputs (d : Disk) (values : List (String × String)) :
    Except DiskError (Octets × Octets) := do
  let policy ← d.read ((values.lookup "policy").getD "")
  let archive ← d.read ((values.lookup "archive").getD "")
  return (policy, archive)

/-- The client that a configuration asks for. -/
def clientOf (c : Configuration) (s : Surroundings) : Traced (Option Client) :=
  if c.oracleKind == askingKind then do
    let options : ClientOptions :=
      ⟨!(c.value .useBedrock).isBlankValue, c.value .timeout, c.isVerbose⟩
    let (client, _) ← Client.connect s.services options
    return some client
  else return none

/-- What the questions of a run cost over a client. -/
def usageOf (client : Option Client) (c : Configuration) (r : Run) : Usage :=
  match client with
  | none => Usage.zero
  | some client =>
    let requests := r.questions.map fun q =>
      (⟨q.prompt, c.value .maxTokens, c.value .temperature⟩ : Request)
    ((⟨Usage.zero, [client]⟩ : Session).callAll 0 requests).1.usage

/-- A run, with the configuration and the client of it. -/
structure Checked where
  configuration : Configuration
  client : Option Client
  run : Run

/-- Make the audit that the arguments ask for, and run it. -/
def check (s : Surroundings) (d : Disk) (values : List (String × String))
    (readers : Readers := Readers.usual) : Traced (Disk × Except Interruption Checked) := do
  match ← configurationOf s d values readers with
  | .error e => return (d, .error (.config e))
  | .ok c =>
    -- the files are read after the configuration and before anything is asked
    match inputs d values with
    | .error e => return (d, .error (.disk e))
    | .ok (policy, archive) =>
      let client ← clientOf c s
      let oracle ← c.chosenOracle (client.bind Client.assistant)
      match Audit.ofConfiguration c oracle readers with
      | .error e => return (d, .error (.place e))
      | .ok a =>
        let (d, result) ← a.run d (.octets policy) archive
        return (d, (result.mapError .audit).map fun r => ⟨c, client, r⟩)

/-- The name of the project in an archive. -/
def projectOf (archive : String) : String :=
  Path.stem (Path.baseName archive)

/-- Write the report of a run, if a path for it is given; what is said about it. -/
def writeReport (s : Surroundings) (d : Disk) (values : List (String × String)) (r : Run) :
    Except DiskError (Disk × String) := do
  let path := (values.lookup "output").getD ""
  -- an empty path is none
  if path.isEmpty then return (d, "")
  let report := r.report (projectOf ((values.lookup "archive").getD "")) s.stamp
  let d ← d.write path (encodeUtf8 (Json.pretty report))
  return (d, s!"✓ Report saved: {path}\n" ++ r.metrics.summary ++ "\n")

def printed (c : Checked) : String :=
  let summary :=
    if c.configuration.oracleKind == askingKind then
      (usageOf c.client c.configuration c.run).summary toolName
    else ""
  Json.pretty c.run.result.toJson ++ "\n" ++ summary

/-- Do what the arguments ask for. -/
def execute (s : Surroundings) (d : Disk) (values : List (String × String))
    (readers : Readers := Readers.usual) : Traced (Disk × Except Interruption Finished) := do
  let (d, checked) ← check s d values readers
  match checked with
  | .error e => return (d, if e.isAnswered then .ok (failed e.message) else .error e)
  | .ok c =>
    match writeReport s d values c.run with
    | .error e => return (d, .error (.disk e))
    | .ok (d, said) => return (d, .ok ⟨0, printed c, said⟩)

def run (s : Surroundings) (d : Disk) (arguments : List String)
    (readers : Readers := Readers.usual) : Traced (Disk × Except Interruption Finished) :=
  match grammar.read arguments with
  | .error e => return (d, .ok ⟨2, "", usage ++ "permcheck: error: " ++ e.message ++ "\n"⟩)
  | .ok .help => return (d, .ok ⟨0, help, ""⟩)
  | .ok (.values values) => execute s d values readers

end CheckCommand
end RoleAudit
