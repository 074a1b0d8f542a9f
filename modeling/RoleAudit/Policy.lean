import RoleAudit.Log
import RoleAudit.Permission
import RoleAudit.Text.Blank
import RoleAudit.Text.Cut
import RoleAudit.Xml.Document

/-!
# Policy documents

The rules that a policy document declares.

- `Document`: a document as text or as octets;
- `modulesOf`: the modules and rules of an element tree;
- `rulesOf`: the rules as permissions; a rule without role, action or resource is left out with a
  warning;
- `rulesIn`: both, for an element tree; `declaredRules`: both, for a document.
-/

namespace RoleAudit
namespace Policy

open RoleAudit.Text RoleAudit.Xml

/-- A policy document as it is handed in. -/
inductive Document where
  | text (s : String)
  | octets (bytes : Octets)

/-- The trimmed text of the first child of a name, or the empty text. -/
def textOf (e : Element) (name : String) : String :=
  match e.child? name with
  | some child => strip child.text
  | none => ""

/-- The restrictions of a rule without their blanks; empty ones are left out. -/
def restrictionsOf (rule : Element) : List String :=
  match rule.child? "Condition" with
  | none => []
  | some condition =>
    let parts := condition.childrenNamed "Restriction"
    -- a condition without restrictions is one itself
    let texts := if parts.isEmpty then [condition.text] else parts.map Element.text
    (texts.map squeeze).filter fun s => !s.isEmpty

/-- A rule element as a declaration. -/
def ruleOf (e : Element) : RuleDeclaration where
  ruleId := textOf e "RuleId"
  effect := textOf e "Effect"
  role := textOf e "Role"
  action := textOf e "Action"
  resource := textOf e "Resource"
  name := textOf e "Name"
  restrictions := restrictionsOf e

/-- A module element as a declaration: the rules of each of its controller elements in order. -/
def moduleOf (e : Element) : ModuleDeclaration where
  name := textOf e "Name"
  rules :=
    ((e.children.filter fun child => startsWith child.tag "Controller").flatMap fun child =>
      child.childrenNamed "Rule").map ruleOf

def rootName : String := "Policys"

def moduleName : String := "Module"

/-- The modules of an element tree. -/
def modulesOf (root : Element) : Traced (List ModuleDeclaration) :=
  if root.tag != rootName then do
    Traced.note .warning .policy
      ("[POLICY] Root element is <" ++ root.tag ++ ">, expected <" ++ rootName ++
        ">; no rules loaded")
    pure []
  else
    let modules := root.childrenNamed moduleName
    if modules.isEmpty then do
      Traced.note .warning .policy
        ("[POLICY] Policy document has no <" ++ moduleName ++ "> entries; no rules loaded")
      pure []
    else do
      Traced.note .debug .policy
        ("[POLICY] Parsed " ++ Decimal.natText modules.length ++ " modules")
      pure (modules.map moduleOf)

/-- The required parts that a declaration leaves empty. -/
def missingParts (d : RuleDeclaration) : List String :=
  ([("role", d.role), ("action", d.action), ("resource", d.resource)].filter fun part =>
    part.2.isEmpty).map Prod.fst

/-- The restrictions of a rule as one condition. -/
def conditionOf (d : RuleDeclaration) : String :=
  joinWith "&&" d.restrictions

def permissionOf (d : RuleDeclaration) : Permission :=
  ⟨d.role, d.action, d.resource, conditionOf d⟩

/-- The first of some texts that is not empty, or a question mark. -/
def firstNamed : List String → String
  | [] => "?"
  | s :: rest => if s.isEmpty then firstNamed rest else s

/-- The warning for a declaration that is left out. -/
def skippedMessage (m : ModuleDeclaration) (d : RuleDeclaration) : String :=
  "[POLICY] Skipping rule " ++ firstNamed [d.ruleId, d.name] ++ " in module " ++
    firstNamed [m.name] ++ ": missing " ++ joinWith ", " (missingParts d)

/-- The complete rules of the modules, in order. -/
def rulesOf (modules : List ModuleDeclaration) : Traced (List Permission) :=
  let all := modules.flatMap fun m => m.rules.map fun d => (m, d)
  let skipped := all.filter fun (_, d) => !(missingParts d).isEmpty
  let kept := all.filter fun (_, d) => (missingParts d).isEmpty
  -- the warnings come in the order of the rules, whichever the module
  ⟨skipped.map fun (m, d) => ⟨.warning, .policy, skippedMessage m d⟩,
    kept.map fun (_, d) => permissionOf d⟩

def Document.root : Document → Except Xml.Error Element
  | .text s => readText s
  | .octets bytes => readOctets bytes

def failureMessage : Xml.Error → String
  | .malformed fault place => "Error parsing XML policy document: " ++ shownAt fault place
  | .documentType d => "XML policy document uses forbidden constructs: " ++ d.shown
  | .unknownEncoding name => "unknown encoding: " ++ name
  | .notTextEncoding name =>
    "'" ++ String.ofList (name.toList.take 400) ++
      "' is not a text encoding; use codecs.decode() to handle arbitrary codecs"
  | .multiByteEncoding => "multi-byte encodings are not supported"
  | .unusableEncoding problem => problem
  -- every octet there is was to be decoded, and the first part ends at the last hyphen
  | .undecodable => "'ascii' codec can't decode byte 0x80 in position 82: ordinal not in range(128)"

def readModules (document : Document) : Step Xml.Error (List ModuleDeclaration) :=
  match document.root with
  | .error e => throw e
  | .ok root => ExceptT.lift (modulesOf root)

/-- The complete rules of an element tree. -/
def rulesIn (root : Element) : Traced (List Permission) := do
  let modules ← modulesOf root
  rulesOf modules

/-- The rules of a document whose root element is read, or not. -/
def declaredBy (root : Except Xml.Error Element) : Step Xml.Error (List Permission) :=
  match root with
  | .error e => throw e
  | .ok root => ExceptT.lift (rulesIn root)

def declaredRules (document : Document) : Step Xml.Error (List Permission) :=
  declaredBy document.root

end Policy
end RoleAudit
