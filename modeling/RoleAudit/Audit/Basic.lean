import RoleAudit.Configuration
import RoleAudit.Extraction
import RoleAudit.Oracle.Static
import RoleAudit.Permission
import RoleAudit.Readers

/-!
# Audits

An audit compares a policy document with the project in an archive.

- `Audit`: where to extract, what to leave out, how permissions are made, the oracle to ask, and
  how to read what it is handed;
- `Audit.ofConfiguration`: an audit as a configuration says;
- `Note`: something that could not be resolved; `ControllerSummary`: what one controller gave.
-/

namespace RoleAudit

/-- How to audit. -/
structure Audit where
  /-- The place of extraction. -/
  place : String
  /-- The directories that are left out, unless they cannot be told. -/
  exclusions : Except ExclusionError (List String)
  /-- The resource of a permission is the path of its controller, and not an entity. -/
  usesBasePath : Bool
  completeness : Completeness
  /-- More is reported. -/
  isVerbose : Bool
  oracle : Oracle
  readers : Readers := Readers.usual

/-- How a configuration says that an assistant is asked. -/
def Configuration.askingOptions (c : Configuration) : AskingOptions :=
  ⟨c.value .maxTokens, c.value .temperature, c.isVerbose⟩

/-- The oracle that a configuration says; it may ask an assistant. -/
def Configuration.chosenOracle (c : Configuration) (assistant : Option Assistant) :
    Traced Oracle :=
  Oracle.ofKind c.oracleKind assistant c.askingOptions

/-- An audit as a configuration says, with an oracle and with readers. -/
def Audit.ofConfiguration (c : Configuration) (oracle : Oracle)
    (readers : Readers := Readers.usual) : Except PlaceError Audit := do
  return {
    place := ← c.place
    exclusions := c.exclusions
    usesBasePath := c.usesBasePath
    completeness := c.completenessPolicy
    isVerbose := c.isVerbose
    oracle := oracle
    readers := readers }

/-! ## What an audit gives -/

/-- What could not be resolved. -/
inductive NoteKind where
  | controller
  | service
  | entity
  | policy
  | constraint
  | oracle
  deriving DecidableEq, Repr

def NoteKind.name : NoteKind → String
  | controller => "controller"
  | service => "service"
  | entity => "entity"
  | policy => "policy"
  | constraint => "constraint"
  | oracle => "oracle"

/-- Something that could not be resolved for a controller. -/
structure Note where
  /-- The controller by its path in the project. -/
  controller : String
  kind : NoteKind
  detail : String
  deriving DecidableEq, Repr

/-- What one controller gave. -/
structure ControllerSummary where
  /-- Its path in the project. -/
  path : String
  className : String
  basePath : String
  methods : List String
  /-- The class of its service, or the empty text. -/
  service : String
  policies : List String
  permissions : List Permission
  deriving DecidableEq, Repr

end RoleAudit
