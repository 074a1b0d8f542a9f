import RoleAudit.Xml.Error
import RoleAudit.Xml.Scan

/-!
# Namespaces

The qualifiers in force at an element, and the name that an element has in its namespace.

- `Bindings`: qualifiers with their namespaces, the innermost first; an empty qualifier is the
  default;
- `bind`: a new binding, unless it touches one of the two reserved namespaces;
- `enter`: the bindings inside a tag, the name of its element and its attributes, once these are
  checked.
-/

namespace RoleAudit
namespace Xml

/-- Qualifiers with their namespaces, the innermost first. -/
abbrev Bindings := List (String × String)

def xmlUri : String := "http://www.w3.org/XML/1998/namespace"

def xmlnsUri : String := "http://www.w3.org/2000/xmlns/"

def outermost : Bindings := [("xml", xmlUri)]

/-- A fault at the text that it starts. -/
structure Stop where
  fault : Fault
  remaining : List Char

def splitName (name : List Char) : Option String × String :=
  match name.dropWhile (· != ':') with
  | [] => (none, String.ofList name)
  | _ :: rest => (some (String.ofList (name.takeWhile (· != ':'))), String.ofList rest)

def bind (bindings : Bindings) (qualifier uri : String) : Except Fault Bindings :=
  if uri.isEmpty && !qualifier.isEmpty then .error .undeclaredQualifier
  else if qualifier == "xmlns" then .error .reservedXmlns
  else if uri.toList.contains '\x7d' then .error .syntaxFault
  else if qualifier == "xml" && uri != xmlUri then .error .reservedXml
  else if qualifier != "xml" && uri == xmlUri then .error .reservedUri
  else if qualifier != "xml" && uri == xmlnsUri then .error .reservedUri
  else .ok ((qualifier, uri) :: bindings)

/-- The text of an attribute's value in a tag; blanks become spaces, a line end one space. -/
def valueText (tag : List Char) : List ValuePart → Except Stop (List Char)
  | [] => .ok []
  | .char '\r' :: .char '\n' :: parts => do
    let rest ← valueText tag parts
    .ok (' ' :: rest)
  | .char c :: parts => do
    let rest ← valueText tag parts
    .ok ((if isXmlBlank c then ' ' else c) :: rest)
  | .reference (.number n) start :: parts =>
    if isReferable n then do
      let rest ← valueText tag parts
      .ok (Char.ofNat n :: rest)
    else .error ⟨.badCharacterReference, start⟩
  | .reference (.entity name) _ :: parts =>
    match predefined name with
    | some c => do
      let rest ← valueText tag parts
      .ok (c :: rest)
    | none => .error ⟨.undefinedEntity, tag⟩

/-- Read the attributes in order: no name twice, valid values, and the new bindings. -/
def declare (tag : List Char) (bindings : Bindings) (seen : List (List Char)) :
    List RawAttribute → Except Stop (Bindings × List (List Char × String))
  | [] => .ok (bindings, [])
  | a :: rest =>
    if seen.contains a.name then .error ⟨.duplicateAttribute, a.start⟩
    else do
      let value := String.ofList (← valueText tag a.value)
      let bound :=
        match splitName a.name with
        | (none, "xmlns") => bind bindings "" value
        | (some "xmlns", qualifier) => bind bindings qualifier value
        | _ => .ok bindings
      match bound with
      | .error fault => .error ⟨fault, tag⟩
      | .ok bindings => do
        let (bindings, others) ← declare tag bindings (a.name :: seen) rest
        .ok (bindings, (a.name, value) :: others)

/-- Every qualified attribute has a namespace, and no two are the same name in one namespace. -/
def checkQualified (tag : List Char) (bindings : Bindings) (seen : List (String × String)) :
    List RawAttribute → Except Stop Unit
  | [] => .ok ()
  | a :: rest =>
    match splitName a.name with
    | (some "xmlns", _) => checkQualified tag bindings seen rest
    | (some qualifier, name) =>
      match bindings.lookup qualifier with
      | none => .error ⟨.unboundQualifier, tag⟩
      | some uri =>
        if seen.contains (uri, name) then .error ⟨.duplicateAttribute, tag⟩
        else checkQualified tag bindings ((uri, name) :: seen) rest
    | (none, _) => checkQualified tag bindings seen rest

def expandedName (bindings : Bindings) (name : List Char) : Option String :=
  match splitName name with
  | (some qualifier, rest) =>
    (bindings.lookup qualifier).map fun uri => "\x7b" ++ uri ++ "\x7d" ++ rest
  | (none, rest) =>
    match bindings.lookup "" with
    | none => some rest
    | some uri => some (if uri.isEmpty then rest else "\x7b" ++ uri ++ "\x7d" ++ rest)

/-- The name of an attribute in its namespace, unless it declares one; none is there by default. -/
def attributeName? (bindings : Bindings) (name : List Char) : Option String :=
  match splitName name with
  | (none, "xmlns") => none
  | (none, name) => some name
  | (some "xmlns", _) => none
  | (some qualifier, rest) =>
    (bindings.lookup qualifier).map fun uri => "\x7b" ++ uri ++ "\x7d" ++ rest

/-- A tag whose namespaces are resolved. -/
structure Entered where
  bindings : Bindings
  name : String
  attributes : List (String × String)

/-- Resolve the namespaces of a tag; `tag` is the text that it starts. -/
def enter (tag : List Char) (outer : Bindings) (t : RawTag) : Except Stop Entered := do
  let (bindings, values) ← declare tag outer [] t.attributes
  -- only now, since a declaration also holds for the attributes before it
  checkQualified tag bindings [] t.attributes
  match expandedName bindings t.name with
  | some name =>
    .ok ⟨bindings, name, values.filterMap fun (written, value) =>
      (attributeName? bindings written).map fun name => (name, value)⟩
  | none => .error ⟨.unboundQualifier, tag⟩

end Xml
end RoleAudit
