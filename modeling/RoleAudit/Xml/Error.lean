import RoleAudit.Decimal.Whole
import RoleAudit.Text.Quoted

/-!
# Why a document is refused

- `Fault`: the ways in which a text fails to be a document;
- `Place`: a line counted from one and a column counted from zero;
- `Error`: a fault at a place, a document type declaration, or an encoding that cannot be used.
-/

namespace RoleAudit
namespace Xml

/-- How a text fails to be a document. -/
inductive Fault where
  | syntaxFault
  | noElement
  | invalidToken
  | unclosedToken
  | partialCharacter
  | mismatchedTag
  | duplicateAttribute
  | junkAfterRoot
  | parameterReference
  | undefinedEntity
  | badCharacterReference
  | misplacedDeclaration
  | wrongEncoding
  | unknownEncoding
  | unclosedCdata
  | badDeclaration
  | unboundQualifier
  | undeclaredQualifier
  | badPublicId
  | reservedXml
  | reservedXmlns
  | reservedUri
  deriving DecidableEq, Repr

def Fault.wording : Fault → String
  | .syntaxFault => "syntax error"
  | .noElement => "no element found"
  | .invalidToken => "not well-formed (invalid token)"
  | .unclosedToken => "unclosed token"
  | .partialCharacter => "partial character"
  | .mismatchedTag => "mismatched tag"
  | .duplicateAttribute => "duplicate attribute"
  | .junkAfterRoot => "junk after document element"
  | .parameterReference => "illegal parameter entity reference"
  | .undefinedEntity => "undefined entity"
  | .badCharacterReference => "reference to invalid character number"
  | .misplacedDeclaration => "XML or text declaration not at start of entity"
  | .wrongEncoding => "encoding specified in XML declaration is incorrect"
  | .unknownEncoding => "unknown encoding"
  | .unclosedCdata => "unclosed CDATA section"
  | .badDeclaration => "XML declaration not well-formed"
  | .unboundQualifier => "unbound prefix"
  | .undeclaredQualifier => "must not undeclare prefix"
  | .badPublicId => "illegal character(s) in public id"
  | .reservedXml =>
    "reserved prefix (xml) must not be undeclared or bound to another namespace name"
  | .reservedXmlns => "reserved prefix (xmlns) must not be declared or undeclared"
  | .reservedUri => "prefix must not be bound to one of the reserved namespace names"

/-- A place in a text: the line from one, the column from zero. -/
structure Place where
  line : Nat
  column : Nat
  deriving DecidableEq, Repr

def Place.after (p : Place) : List Char → Place
  | [] => p
  | '\r' :: '\n' :: cs => Place.after ⟨p.line + 1, 0⟩ cs
  | '\r' :: cs => Place.after ⟨p.line + 1, 0⟩ cs
  | '\n' :: cs => Place.after ⟨p.line + 1, 0⟩ cs
  | _ :: cs => Place.after ⟨p.line, p.column + 1⟩ cs

def Place.start : Place := ⟨1, 0⟩

/-- A document type declaration up to its internal subset or its end. -/
structure DocumentType where
  name : String
  systemId : Option String
  publicId : Option String
  deriving DecidableEq, Repr

def quotedOrNone : Option String → String
  | some s => Text.quoted s
  | none => "None"

def DocumentType.shown (d : DocumentType) : String :=
  "DTDForbidden(name='" ++ d.name ++ "', system_id=" ++ quotedOrNone d.systemId ++
    ", public_id=" ++ quotedOrNone d.publicId ++ ")"

/-- Why a document is refused. -/
inductive Error where
  | malformed (fault : Fault) (place : Place)
  | documentType (declaration : DocumentType)
  | unknownEncoding (name : String)
  /-- The name of a code that is none for texts. -/
  | notTextEncoding (name : String)
  /-- Its characters have several octets. -/
  | multiByteEncoding
  /-- It fails for octets of its own. -/
  | unusableEncoding (problem : String)
  /-- It takes octets for ASCII that are none. -/
  | undecodable
  deriving DecidableEq, Repr

/-- The document is refused, as opposed to using what is not supported. -/
def Error.isRefusal : Error → Bool
  | malformed _ _ | documentType _ => true
  | unknownEncoding _ | notTextEncoding _ | multiByteEncoding | unusableEncoding _
  | undecodable => false

def shownAt (fault : Fault) (place : Place) : String :=
  fault.wording ++ ": line " ++ Decimal.natText place.line ++ ", column " ++
    Decimal.natText place.column

end Xml
end RoleAudit
