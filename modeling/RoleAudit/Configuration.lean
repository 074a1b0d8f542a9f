import RoleAudit.Assembly
import RoleAudit.Decimal.Numeral
import RoleAudit.Disk
import RoleAudit.Log
import RoleAudit.Text.Blank
import RoleAudit.Text.Case
import RoleAudit.Yaml.Value

/-!
# Configuration

The settings of an audit. They come from defaults, then from a document, then from environment
variables; each layer counts before the ones below it, field by field.

- `Field`: the settings that there are;
- `Configuration`: a value for every field;
- `Configuration.ofEntries`: a configuration from named values, which must be known;
- `Configuration.load`: a configuration from a document and from variables;
- `Configuration.check`: the bounds that every configuration keeps. Only the fields with a list of
  choices and the time limit are bounded; other values are kept as they are given.
-/

namespace RoleAudit

open RoleAudit.Text

/-! ## Fields -/

/-- The settings that there are. -/
inductive Field where
  | extractRoot
  | projectDirectory
  | excluded
  | resourceStrategy
  | completeness
  | oracle
  | useBedrock
  | timeout
  | maxTokens
  | temperature
  | debug
  deriving DecidableEq, Repr

/-- The kind of value that a field is meant to have. -/
inductive FieldKind where
  | flag
  | whole
  | real
  | texts
  | text
  deriving DecidableEq, Repr

namespace Field

/-- The fields in order. -/
def all : List Field :=
  [extractRoot, projectDirectory, excluded, resourceStrategy, completeness, oracle, useBedrock,
    timeout, maxTokens, temperature, debug]

/-- The written name of a field. -/
def name : Field → String
  | extractRoot => "extract_root"
  | projectDirectory => "project_dir_name"
  | excluded => "excluded_dirs"
  | resourceStrategy => "resource_strategy"
  | completeness => "completeness"
  | oracle => "oracle"
  | useBedrock => "use_bedrock"
  | timeout => "ai_timeout_seconds"
  | maxTokens => "ai_max_tokens"
  | temperature => "ai_temperature"
  | debug => "debug"

def ofName? (s : String) : Option Field :=
  all.find? fun f => f.name == s

/-- The kind of value that a field is meant to have. -/
def kind : Field → FieldKind
  | excluded => .texts
  | useBedrock => .flag
  | timeout => .real
  | maxTokens => .whole
  | temperature => .real
  | debug => .flag
  | _ => .text

/-- The variable that gives a field. -/
def variableName (f : Field) : String :=
  "PERMCHECK_" ++ upper f.name

/-- The values that a field may have, if they are listed. -/
def choices : Field → List String
  | resourceStrategy => ["entity", "base_path"]
  | completeness => ["all_facts", "condition_optional"]
  | oracle => ["static", "llm"]
  | _ => []

/-- The value of a field that nothing else gives. -/
def usual (temporary : String) : Field → Setting
  | extractRoot => .text (Path.join temporary "permcheck")
  | projectDirectory => .text "nestjs-project"
  | excluded => .list [.text "auth", .text "user"]
  | resourceStrategy => .text "entity"
  | completeness => .text "all_facts"
  | oracle => .text "static"
  | useBedrock => .bool true
  | timeout => .float 120
  | maxTokens => .int 1000
  | temperature => .float 0
  | debug => .bool false

end Field

/-! ## Errors -/

/-- Why there is no configuration. -/
inductive ConfigError where
  /-- Names that no field has. -/
  | unknownNames (names : List String)
  /-- Something other than a text names a field. -/
  | nameNotText (kind : String)
  /-- Things that name no field and cannot be put in order. -/
  | namesNotOrdered (later earlier : String)
  /-- A field has none of its choices. -/
  | notAllowed (field : Field) (value : Setting)
  /-- The time limit is not positive. -/
  | notPositive
  /-- The time limit is no number. -/
  | notNumber (kind : String)
  /-- A variable has a value that is not of the kind of its field. -/
  | badVariable (field : Field) (raw : String)
  /-- The document cannot be read. -/
  | unreadable (path : String) (error : DiskError)
  /-- The document is no UTF-8. -/
  | notUtf8 (problem : Utf8Problem)
  /-- The document is broken. -/
  | malformed (path : String)
  /-- The document holds a value that is none of its kind. -/
  | badValue (fault : Yaml.Fault)
  /-- The document is no table. -/
  | notTable (path : String)
  /-- A value that is to be put into words holds a whole number with too many digits. -/
  | notShowable

namespace ConfigError

/-- A list of choices in words. -/
def choicesShown (choices : List String) : String :=
  "(" ++ joinWith ", " (choices.map quoted) ++ ")"

def message : ConfigError → String
  | unknownNames names => "Unknown config keys: " ++ joinWith ", " names
  | nameNotText kind => s!"sequence item 0: expected str instance, {kind} found"
  | namesNotOrdered later earlier =>
    s!"'<' not supported between instances of '{later}' and '{earlier}'"
  | notAllowed field value =>
    field.name ++ " must be one of " ++ choicesShown field.choices ++ ", got " ++ value.shown
  | notPositive => Field.timeout.name ++ " must be positive"
  | notNumber kind => s!"'<=' not supported between instances of '{kind}' and 'int'"
  | badVariable field raw => "Invalid value for " ++ field.variableName ++ ": " ++ quoted raw
  | unreadable path error => s!"Failed to load config {path}: " ++ error.message
  | notUtf8 problem => problem.message
  | malformed path => s!"Failed to load config {path}: " ++ Yaml.Fault.malformed.message
  | badValue fault => fault.message
  | notTable path => s!"Config file {path} must contain a mapping"
  | notShowable =>
    s!"Exceeds the limit ({Decimal.longestInt} digits) for integer string conversion; " ++
      "use sys.set_int_max_str_digits() to increase the limit"

end ConfigError

/-! ## Configurations -/

/-- A value for every field. -/
structure Configuration where
  value : Field → Setting

/-- Named values, where a later entry of a name takes the place of an earlier one. -/
abbrev Entries := List (Setting × Setting)

/-- The last value that entries give a field. -/
def fieldValue? (entries : Entries) (f : Field) : Option Setting :=
  -- a later layer comes later, so the search goes backwards
  (entries.reverse.find? fun (k, _) => k.text? == some f.name).map (·.2)

/-- The names among entries that no field has, each once. -/
def unknownNames (entries : Entries) : List Setting :=
  (Setting.tableFrom entries).filterMap fun (k, _) =>
    if (k.text?.bind Field.ofName?).isSome then none else some k

/-- The least of some numbers, the first of equal ones. -/
def leastNumber (least : Setting) : List Setting → Setting
  | [] => least
  | n :: rest =>
    match n.number?, least.number? with
    | some x, some y => leastNumber (if x < y then n else least) rest
    | _, _ => leastNumber least rest

/-- Two things that are no numbers can be put in order. -/
def areOrdered (a b : Setting) : Bool :=
  match a, b with
  | .date .., .date .. => true
  | .moment _ _ _ _ _ _ _ zone, .moment _ _ _ _ _ _ _ zone' => zone.isSome == zone'.isSome
  | .octets _, .octets _ => true
  | _, _ => false

/--
Why unknown names are refused: texts are listed in ascending order; of other things one is named, or
two that cannot be put in order.
-/
def unknownError (unknown : List Setting) : ConfigError :=
  let names := unknown.filterMap Setting.text?
  let others := unknown.filter fun k => k.text?.isNone
  match others with
  | [] => .unknownNames (sorted names)
  | first :: rest =>
    -- beside a text anything else fails to be put in order with it
    if !names.isEmpty then .namesNotOrdered "str" first.kindName
    else if first.number?.isSome && rest.all fun k => k.number?.isSome then
      .nameNotText (leastNumber first rest).kindName
    else
      match rest with
      | [] => .nameNotText first.kindName
      | second :: _ =>
        if rest.all (areOrdered first) then .nameNotText first.kindName
        else .namesNotOrdered second.kindName first.kindName

/-- A field has one of its choices, if they are listed. -/
def checkChoice (f : Field) (value : Setting) : Except ConfigError Unit :=
  if f.choices.isEmpty || (value.text?).any f.choices.contains then .ok ()
  else if value.isShowable then .error (.notAllowed f value)
  else .error .notShowable

/-- A time limit is positive or no number at all. -/
def checkTimeout (value : Setting) : Except ConfigError Unit :=
  match value with
  | .int n => if n ≤ 0 then .error .notPositive else .ok ()
  | v =>
    match v.number? with
    | some x => if x ≤ 0 then .error .notPositive else .ok ()
    | none => .error (.notNumber v.kindName)

namespace Configuration

/-- The bounds of a configuration. -/
def check (c : Configuration) : Except ConfigError Unit := do
  -- in this order, so the first field out of bounds is the one reported
  for f in [Field.resourceStrategy, Field.completeness, Field.oracle] do
    checkChoice f (c.value f)
  checkTimeout (c.value .timeout)

/-- A configuration with another value for a field. -/
def put (c : Configuration) (f : Field) (v : Setting) : Configuration :=
  ⟨fun g => if g = f then v else c.value g⟩

/-- A configuration from entries that name fields, within its bounds. -/
def ofEntries (usual : Field → Setting) (entries : Entries) : Except ConfigError Configuration :=
  match unknownNames entries with
  | [] =>
    let c : Configuration := ⟨fun f => (fieldValue? entries f).getD (usual f)⟩
    c.check.map fun _ => c
  | unknown => .error (unknownError unknown)

def override (c : Configuration) (values : List (Field × Setting)) :
    Except ConfigError Configuration :=
  let c := values.foldl (fun c (f, v) => c.put f v) c
  c.check.map fun _ => c

/-- A configuration can be put into words. -/
def isShowable (c : Configuration) : Bool :=
  Field.all.all fun f => (c.value f).isShowable

def shown (c : Configuration) : String :=
  let parts := Field.all.map fun f => f.name ++ "=" ++ (c.value f).shown
  "CheckerConfig(" ++ joinWith ", " parts ++ ")"

end Configuration

/-! ## Environment variables -/

def setFlags : List String := ["1", "true", "yes", "on"]

/-- The value of a variable as a value of the kind of its field. -/
def variableValue? (kind : FieldKind) (raw : String) : Option Setting :=
  match kind with
  | .flag => some (.bool (setFlags.contains (lower (strip raw))))
  | .whole => (Decimal.readInt? raw).map .int
  | .real => (Decimal.readFloat? raw).map .float
  | .texts =>
    let parts := (splitAt ',' raw).map strip
    some (.list ((parts.filter fun p => !p.isEmpty).map .text))
  | .text => some (.text (strip raw))

/-- The entry that a variable gives, if it is set. -/
def variableEntry (environment : List (String × String)) (f : Field) :
    Except ConfigError (Option (Setting × Setting)) :=
  match environment.lookup f.variableName with
  | none => .ok none
  | some raw =>
    match variableValue? f.kind raw with
    | some v => .ok (some (.text f.name, v))
    | none => .error (.badVariable f raw)

/-- The entries that variables give, in the order of the fields. -/
def variableEntries (environment : List (String × String)) : Except ConfigError Entries := do
  return (← Field.all.mapM (variableEntry environment)).filterMap id

/-! ## Documents -/

/-- How a document of settings is read as a value. -/
abbrev SettingReader := String → Except Yaml.Fault Setting

/-- The entries of a document; a document without a value has none. -/
def documentEntries (read : SettingReader) (d : Disk) (path : String) :
    Except ConfigError Entries := do
  let content ← (d.read path).mapError (.unreadable path)
  let cs ←
    match decodeUtf8? content, utf8Problem? content with
    | some cs, _ => pure cs
    | none, some problem => throw (.notUtf8 problem)
    | none, none => throw (.malformed path)
  match read (String.ofList (uniformLines cs)) with
  | .error .malformed => throw (.malformed path)
  | .error fault => throw (.badValue fault)
  | .ok v =>
    -- an empty list or a false flag passes for an empty document
    if v.isBlankValue then return []
    else
      match v with
      | .table entries => return entries
      | _ => throw (.notTable path)

/-- The entries of the document at a path, if a path is given. -/
def pathEntries (read : SettingReader) (d : Disk) (path : Option String) :
    Except ConfigError Entries :=
  match path with
  | none => .ok []
  | some p => if p.isEmpty then .ok [] else documentEntries read d p

/-- A configuration from the document at a path and from variables; it is reported in words. -/
def Configuration.load (d : Disk) (temporary : String) (path : Option String)
    (environment : List (String × String)) (read : SettingReader := Setting.ofYaml) :
    Traced (Except ConfigError Configuration) := do
  let loaded : Except ConfigError Configuration := do
    let entries ← pathEntries read d path
    let given ← variableEntries environment
    let c ← Configuration.ofEntries (Field.usual temporary) (entries ++ given)
    if c.isShowable then return c else throw .notShowable
  match loaded with
  | .ok c => Traced.note .debug .settings ("[CONFIG] Loaded config: " ++ c.shown)
  | .error _ => pure ()
  return loaded

/-! ## Views -/

/-- Why a configuration names no place of extraction. -/
inductive PlaceError where
  | rootNotPath (kind : String)
  | nameNotPath (kind : String)
  /-- Octets stand beside a text. -/
  | mixed
  deriving DecidableEq, Repr

def PlaceError.message : PlaceError → String
  | rootNotPath kind => "expected str, bytes or os.PathLike object, not " ++ kind
  | nameNotPath kind =>
    "join() argument must be str, bytes, or os.PathLike object, not " ++ quoted kind
  | mixed => "Can't mix strings and bytes in path components"

/-- Why the excluded directories cannot be told. -/
inductive ExclusionError where
  | notList (kind : String)
  | notComparable (kind : String)
  deriving DecidableEq, Repr

def ExclusionError.message : ExclusionError → String
  | notList kind => s!"'{kind}' object is not iterable"
  | notComparable kind => s!"unhashable type: '{kind}'"

/-- The texts among some values, which must all be comparable. -/
def comparableTexts (items : List Setting) : Except ExclusionError (List String) :=
  match items.find? fun i => !i.isKey with
  | some i => .error (.notComparable i.kindName)
  | none => .ok (items.filterMap Setting.text?)

/-- The names that a value lists; a text lists its characters, and a table its keys. -/
def Setting.names : Setting → Except ExclusionError (List String)
  | .text s => .ok (s.toList.map fun c => String.ofList [c])
  | .list items => comparableTexts items
  | .table entries => .ok ((entries.map (·.1)).filterMap Setting.text?)
  | .distinct items => .ok (items.filterMap Setting.text?)
  | .octets _ => .ok []
  | .pair a b => comparableTexts [a, b]
  | v => .error (.notList v.kindName)

namespace Configuration

/-- The place of extraction. -/
def place (c : Configuration) : Except PlaceError String :=
  match c.value .extractRoot, c.value .projectDirectory with
  | .text root, .text name => .ok (Path.join root name)
  | .text _, .octets _ => .error .mixed
  | .octets _, .text _ => .error .mixed
  -- the root is looked at first, then the name
  | .text _, v => .error (.nameNotPath v.shortKindName)
  | .octets _, v => .error (.nameNotPath v.shortKindName)
  | v, _ => .error (.rootNotPath v.shortKindName)

def exclusions (c : Configuration) : Except ExclusionError (List String) :=
  (c.value .excluded).names

/-- The resource of a permission is the path of its controller, and not an entity. -/
def usesBasePath (c : Configuration) : Bool :=
  (c.value .resourceStrategy).text? == some "base_path"

/-- Which conditions may be unresolved. -/
def completenessPolicy (c : Configuration) : Completeness :=
  (((c.value .completeness).text?).bind Completeness.ofName?).getD .allFacts

/-- The kind of oracle to ask. -/
def oracleKind (c : Configuration) : String :=
  ((c.value .oracle).text?).getD ""

/-- More is reported. -/
def isVerbose (c : Configuration) : Bool :=
  !(c.value .debug).isBlankValue

end Configuration

end RoleAudit
