import RoleAudit.Controller.Decorator
import RoleAudit.Oracle.Basic
import RoleAudit.Syntax.Source
import RoleAudit.Text.Blank
import RoleAudit.Text.Class
import RoleAudit.Text.Cut

/-!
# The oracle that reads the source

Entities and conditions as far as the source itself shows them, without asking anyone.

- `typedProperties`: the properties of a class that hold the data of an entity, by their types and
  by what is injected into them;
- `entityUsed`: the entity whose data the body of a method uses;
- `superArgument`: the text that a class passes to the class that it extends;
- `Oracle.reading`: the oracle.
-/

namespace RoleAudit

open RoleAudit.Text RoleAudit.Syntax

/-! ## Reading forms in a text -/

/-- The text after a given one, if that stands at the start. -/
def after? (form cs : List Char) : Option (List Char) :=
  if form.isPrefixOf cs then some (cs.drop form.length) else none

/-- A name at the start of a text and the text after it. -/
def word? (cs : List Char) : Option (List Char × List Char) :=
  match cs.takeWhile isWord with
  | [] => none
  | name => some (name, cs.dropWhile isWord)

/-- A text without the blanks at its start. -/
def skipBlanks (cs : List Char) : List Char :=
  cs.dropWhile isBlank

/--
What a form gives wherever it occurs, from left to right; an occurrence starts after the one before
it ends. The form tells how many characters it takes.
-/
def occurrences (form? : List Char → Option (α × Nat)) : Nat → List Char → List α
  | _, [] => []
  | skip + 1, _ :: cs => occurrences form? skip cs
  | 0, c :: cs =>
    match form? (c :: cs) with
    | some (a, taken) => a :: occurrences form? (taken - 1) cs
    | none => occurrences form? 0 cs

/-- What a form gives at its first occurrence. -/
def firstOccurrence? (form? : List Char → Option α) : List Char → Option α
  | [] => none
  | c :: cs =>
    match form? (c :: cs) with
    | some a => some a
    | none => firstOccurrence? form? cs

/-- A form that gives a value and the text after it, as one that tells what it takes. -/
def measured (form? : List Char → Option (α × List Char)) (cs : List Char) : Option (α × Nat) :=
  (form? cs).map fun (a, rest) => (a, cs.length - rest.length)

/-! ## Properties that hold the data of an entity -/

def repositoryTypes : List (List Char) :=
  ["Repository".toList, "Model".toList, "MongoRepository".toList]

/-- A property with such a type: `name: Repository<Entity>`. -/
def typedProperty? (cs : List Char) : Option ((String × String) × List Char) := do
  let (name, rest) ← word? cs
  let rest ← after? [':'] (skipBlanks rest)
  let rest ← repositoryTypes.firstM fun type => after? type (skipBlanks rest)
  let rest ← after? ['<'] (skipBlanks rest)
  let (entity, rest) ← word? (skipBlanks rest)
  let rest ← after? ['>'] (skipBlanks rest)
  return ((String.ofList name, String.ofList entity), rest)

/-- The decorators that inject the data of an entity. -/
def injections : List (List Char) :=
  ["@InjectRepository(".toList, "@InjectModel(".toList]

/-- Words that may stand before the name of a property. -/
def propertyModifiers : List (List Char) :=
  ["private".toList, "protected".toList, "public".toList, "readonly".toList]

/--
The name of a property after its modifiers and the text after it; a modifier that no name follows is
the name.
-/
def propertyName? : Nat → List Char → Option (List Char × List Char)
  | 0, _ => none
  | fuel + 1, cs =>
    match word? cs with
    | none => none
    | some (name, rest) =>
      if propertyModifiers.contains name && rest.head?.any isBlank then
        (propertyName? fuel (skipBlanks rest)).or (some (name, rest))
      else some (name, rest)

/-- The entity that a decorator names and the text after the decorator. -/
def injectedEntity? (cs : List Char) : Option (List Char × List Char) := do
  let rest ← injections.firstM fun form => after? form cs
  let (entity, rest) ← word? (skipBlanks rest)
  let closed (cs : List Char) : Option (List Char) := after? [')'] (skipBlanks cs)
  -- `Entity.name` counts as `Entity`
  let rest ← ((after? ".name".toList rest).bind closed).or (closed rest)
  return (entity, rest)

/-- A property into which the data of an entity is injected. -/
def injectedProperty? (cs : List Char) : Option ((String × String) × List Char) := do
  let (entity, rest) ← injectedEntity? cs
  let rest := skipBlanks rest
  let (name, rest) ← propertyName? rest.length rest
  return ((String.ofList name, String.ofList entity), rest)

/-- Keep an entry if its key has none yet. -/
def addMissing (known : List (String × α)) (entry : String × α) : List (String × α) :=
  if (known.lookup entry.1).isSome then known else known ++ [entry]

/-- The entity of each property that holds the data of one; a type counts before an injection. -/
def typedProperties (source : String) : List (String × String) :=
  let typed := tableOf (occurrences (measured typedProperty?) 0 source.toList)
  (occurrences (measured injectedProperty?) 0 source.toList).foldl addMissing typed

/-! ## The entity that a body uses -/

def ownMember : List Char := "this.".toList

/-- A property whose member is used: `this.name.`. -/
def usedProperty? (cs : List Char) : Option (String × List Char) := do
  let (name, rest) ← word? (← after? ownMember cs)
  let rest ← after? ['.'] (skipBlanks rest)
  return (String.ofList name, rest)

/-- A table of the data client: `this.prisma.name`. -/
def clientTable? (cs : List Char) : Option String := do
  let (name, _) ← word? (← after? "this.prisma.".toList cs)
  return String.ofList name

/-- The start of the name of a property whose name ends in a word: `this.nameWord`. -/
def namedFor? (ending cs : List Char) : Option String := do
  let (name, _) ← word? (← after? ownMember cs)
  if ending.isSuffixOf name && ending.length < name.length then
    return String.ofList (name.take (name.length - ending.length))
  else none

/--
The entity whose data a body uses: by the first property that holds the data of an entity, by a
table of the data client, or by a property named for a repository or a model.
-/
def entityUsed (typed : List (String × String)) (body : String) : String :=
  let cs := body.toList
  let used := occurrences (measured usedProperty?) 0 cs
  let entity? : Option String :=
    (used.findSome? fun p => typed.lookup p).or
      ((firstOccurrence? clientTable? cs).or
        ((firstOccurrence? (namedFor? "Repository".toList) cs).or
          (firstOccurrence? (namedFor? "Model".toList) cs)))
  entity?.getD ""

/-- The name and the body of a method. -/
def namedBody? (method : Node) : Option (String × Node) := do
  let body ← method.child? .body
  let name := method.childText .name
  if name.isEmpty then none
  return (name, body)

/-- The methods of a source that have a body, in source order. -/
def methodBodies (root : Node) : List (String × Node) :=
  (root.ofKind .method).filterMap namedBody?

/-- The entity of each method, as far as the source shows it. -/
def entitiesRead (methods : List String) (source : String) : Answers :=
  let bodies := methodBodies (Node.ofSource source)
  let typed := typedProperties source
  tableOf (methods.map fun m =>
    (m, ((bodies.lookup m).map fun b => entityUsed typed b.text).getD ""))

/-! ## The condition of a policy -/

/-- A call of the constructor of the class above. -/
def isSuperCall (call : Node) : Bool :=
  ((call.child? .function).map Node.kind) == some .superKeyword

/-- The text that a call has as its first argument, or the empty text. -/
def firstText (call : Node) : String :=
  match (call.child? .arguments).bind fun a => a.children.head? with
  | none => ""
  | some first =>
    if first.kind == .string || first.kind == .template then valueText first else ""

/-- The text that a class passes first to the class that it extends, or the empty text. -/
def superArgument (classNode : Node) : String :=
  (((classNode.ofKind .call).find? isSuperCall).map firstText).getD ""

/-- The classes of a source by name, in source order. -/
def namedClasses (root : Node) : List (String × Node) :=
  (root.ofKind .classDeclaration).map fun c => (c.childText .name, c)

/-- The condition of each policy, as far as the source shows it; the last class of a name counts. -/
def constraintsRead (policies : List String) (source : String) : Answers :=
  let found := (namedClasses (Node.ofSource source)).reverse
  tableOf (policies.map fun p => (p, ((found.lookup p).map superArgument).getD ""))

/-- The oracle that reads the source. -/
def Oracle.reading : Oracle where
  name := "static"
  entities methods source := return .ok (entitiesRead methods source)
  constraints policies _ source := return .ok (constraintsRead policies source)

/-! ## The choice of an oracle -/

/-- The kind of oracle that asks an assistant. -/
def askingKind : String := "llm"

/-- An oracle of a kind; without an assistant to ask, the source is read. -/
def Oracle.ofKind (kind : String) (assistant : Option Assistant) (options : AskingOptions) :
    Traced Oracle := do
  match assistant with
  | some a => return if kind == askingKind then Oracle.asking a options else Oracle.reading
  | none =>
    Traced.noteIf (kind == askingKind) .warning .oracle
      "[ORACLE] No AI client available (Bedrock or Anthropic API); using static oracle"
    return Oracle.reading

end RoleAudit
