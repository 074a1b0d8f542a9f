import RoleAudit.Yaml.Schema
import RoleAudit.Yaml.Token

/-!
# Nodes of a YAML document

- `Node`: scalars, sequences and mappings with what they are said to be; aliases are replaced by the
  nodes that they stand for;
- `Node.ofTokens`: the node of the only document among some tokens, if there is a document.
-/

namespace RoleAudit
namespace Yaml

inductive Node where
  | scalar (tag : Tag) (text : String)
  | sequence (tag : Tag) (items : List Node)
  | mapping (tag : Tag) (entries : List (Node × Node))

def Node.tag : Node → Tag
  | scalar tag _ => tag
  | sequence tag _ => tag
  | mapping tag _ => tag

def Node.empty : Node := .scalar .null ""

structure Composition where
  tokens : List Token
  anchors : List (String × Node)

/-- A step of the reading of nodes. -/
abbrev Composing (α : Type) := StateT Composition (Except Fault) α

/-- The meanings of the handles of tags. -/
abbrev Handles := List (String × String)

/-- The handles that every document has. -/
def usualHandles : Handles := [("!", "!"), ("!!", Tag.usualStart)]

namespace Composing

def peek : Composing (Option Token) := do
  return (← get).tokens.head?

def drop : Composing Unit :=
  modify fun s => { s with tokens := s.tokens.tail }

def unexpected (t : Option Token) : Composing α :=
  match t with
  | some (.broken f) => throw f
  | _ => throw .malformed

/-- Move over one token if it is a given one. -/
def accept (t : Token) : Composing Bool := do
  if (← peek) == some t then
    drop
    return true
  else return false

def expect (t : Token) : Composing Unit := do
  if !(← accept t) then unexpected (← peek)

def atAny (ts : List Token) : Composing Bool := do
  return (← peek).any ts.contains

def anchor? : Composing (Option String) := do
  match ← peek with
  | some (.anchor name) => do
    drop
    return some name
  | _ => return none

def tag? (handles : Handles) : Composing (Option String) := do
  match ← peek with
  | some (.tag none suffix) => do
    drop
    return some suffix
  | some (.tag (some handle) suffix) => do
    drop
    match handles.lookup handle with
    | some meant => return some (meant ++ suffix)
    | none => throw .malformed
  | _ => return none

/-- The anchor and the tag before a node, in any order. -/
def properties (handles : Handles) : Composing (Option String × Option String) := do
  match ← anchor? with
  | some name => return (some name, ← tag? handles)
  | none =>
    match ← tag? handles with
    | some tag => return (← anchor?, some tag)
    | none => return (none, none)

/-- The tag that says nothing. -/
def plainTag : String := "!"

/-- What a collection is said to be. -/
def collectionTag (usual : Tag) (tag : Option String) : Tag :=
  match tag with
  | none => usual
  | some t => if t == plainTag then usual else Tag.ofName t

/-- What a scalar is said to be; without a tag, plain text is known by its form. -/
def scalarTag (isPlain : Bool) (text : String) (tag : Option String) : Tag :=
  -- quoted text is text, whatever its form
  match tag with
  | none => if isPlain then Tag.ofPlain text else .text
  | some t => if t == plainTag then Tag.ofPlain text else Tag.ofName t

/-- An anchor has not been used before. -/
def checkFresh (anchor : Option String) : Composing Unit := do
  match anchor with
  | some name => if ((← get).anchors.lookup name).isSome then throw .malformed
  | none => return

/-- Tokens before which a key or a value of a mapping by indentation is empty. -/
def endsBlockPart : List Token := [.key, .value, .blockEnd]

mutual

/--
One node; collections by indentation are allowed or not, and so is a list whose dashes stand below
its key.
-/
def node (handles : Handles) : Nat → (block indentless : Bool) → Composing Node
  | 0, _, _ => throw .malformed
  | fuel + 1, block, indentless => do
    match ← peek with
    | some (.reference name) => do
      drop
      match (← get).anchors.lookup name with
      | some n => return n
      | none => throw .malformed
    | _ => do
      let (anchor, tag) ← properties handles
      checkFresh anchor
      -- the content may use the anchor as well, so it is checked once more
      let n ← content handles fuel block indentless tag (anchor.isSome || tag.isSome)
      checkFresh anchor
      match anchor with
      | some name => modify fun s => { s with anchors := (name, n) :: s.anchors }
      | none => pure ()
      return n

/-- A node after its anchor and its tag. -/
def content (handles : Handles) : Nat → (block indentless : Bool) → (tag : Option String) →
    (marked : Bool) → Composing Node
  | 0, _, _, _, _ => throw .malformed
  | fuel + 1, block, indentless, tag, marked => do
    let next ← peek
    let asList := collectionTag .list tag
    let asTable := collectionTag .table tag
    match next with
    | some (.scalar text isPlain) => do
      drop
      return .scalar (scalarTag isPlain text tag) text
    | some .openList => do
      drop
      return .sequence asList (← flowItems handles fuel true)
    | some .openTable => do
      drop
      return .mapping asTable (← flowEntries handles fuel true)
    | _ =>
      if next == some .entry && indentless then
        return .sequence asList (← indentlessItems handles fuel)
      else if next == some .blockSequence && block then do
        drop
        return .sequence asList (← blockItems handles fuel)
      else if next == some .blockMapping && block then do
        drop
        return .mapping asTable (← blockEntries handles fuel)
      -- an anchor or a tag alone makes an empty node
      else if marked then return .scalar (scalarTag true "" tag) ""
      else unexpected next

def blockItems (handles : Handles) : Nat → Composing (List Node)
  | 0 => throw .malformed
  | fuel + 1 => do
    if ← accept .entry then
      let item ← if ← atAny [.entry, .blockEnd] then pure Node.empty
        else node handles fuel true false
      return item :: (← blockItems handles fuel)
    else
      expect .blockEnd
      return []

/-- The items of a list whose dashes stand below its key. -/
def indentlessItems (handles : Handles) : Nat → Composing (List Node)
  | 0 => throw .malformed
  | fuel + 1 => do
    if ← accept .entry then
      let item ← if ← atAny (.entry :: endsBlockPart) then pure Node.empty
        else node handles fuel true false
      return item :: (← indentlessItems handles fuel)
    else return []

/-- A key or a value of a mapping by indentation. -/
def blockPart (handles : Handles) : Nat → Composing Node
  | 0 => throw .malformed
  | fuel + 1 => do
    if ← atAny endsBlockPart then return Node.empty else node handles fuel true true

def blockEntries (handles : Handles) : Nat → Composing (List (Node × Node))
  | 0 => throw .malformed
  | fuel + 1 => do
    if ← accept .key then
      let key ← blockPart handles fuel
      let value ← if ← accept .value then blockPart handles fuel else pure Node.empty
      return (key, value) :: (← blockEntries handles fuel)
    else
      expect .blockEnd
      return []

/-- A key or a value between brackets, which is empty before some tokens. -/
def flowPart (handles : Handles) (ends : List Token) : Nat → Composing Node
  | 0 => throw .malformed
  | fuel + 1 => do
    if ← atAny ends then return Node.empty else node handles fuel false false

/-- The value of a key between brackets, if a colon is next. -/
def flowValue (handles : Handles) (ends : List Token) : Nat → Composing Node
  | 0 => throw .malformed
  | fuel + 1 => do
    if ← accept .value then flowPart handles ends fuel else return Node.empty

def flowItems (handles : Handles) : Nat → (first : Bool) → Composing (List Node)
  | 0, _ => throw .malformed
  | fuel + 1, first => do
    if ← accept .closeList then return []
    -- after a comma the list may still end
    if !first then expect .comma
    if ← accept .closeList then return []
    -- a key between square brackets makes a table of one entry
    let item ←
      if ← accept .key then do
        let key ← flowPart handles [.value, .comma, .closeList] fuel
        let value ← flowValue handles [.comma, .closeList] fuel
        pure (Node.mapping .table [(key, value)])
      else node handles fuel false false
    return item :: (← flowItems handles fuel false)

def flowEntries (handles : Handles) : Nat → (first : Bool) → Composing (List (Node × Node))
  | 0, _ => throw .malformed
  | fuel + 1, first => do
    if ← accept .closeTable then return []
    if !first then expect .comma
    if ← accept .closeTable then return []
    let entry ←
      if ← accept .key then do
        let key ← flowPart handles [.value, .comma, .closeTable] fuel
        let value ← flowValue handles [.comma, .closeTable] fuel
        pure (key, value)
      else do
        let key ← node handles fuel false false
        pure (key, Node.empty)
    return entry :: (← flowEntries handles fuel false)

end

/-! ## Documents -/

def skipEnds : Nat → Composing Unit
  | 0 => return
  | fuel + 1 => do
    if ← accept .documentEnd then skipEnds fuel

/-- The handles that the directives before a document give. -/
def directives : Nat → (versioned : Bool) → Handles → Composing Handles
  | 0, _, _ => throw .malformed
  | fuel + 1, versioned, handles => do
    match ← peek with
    | some (.directive (.version major)) => do
      drop
      if versioned || major != 1 then throw .malformed
      directives fuel true handles
    | some (.directive (.tag handle meant)) => do
      drop
      if (handles.lookup handle).isSome then throw .malformed
      directives fuel versioned ((handle, meant) :: handles)
    | some (.directive .other) => do
      drop
      directives fuel versioned handles
    | _ => return handles ++ usualHandles

/-- A token after which a document without content ends. -/
def isDocumentToken : Token → Bool
  | .directive _ => true
  | .documentStart => true
  | .documentEnd => true
  | _ => false

/-- The node of a document that begins with a sign of its own; nothing at the end of the text. -/
def markedDocument (fuel : Nat) : Composing (Option Node) := do
  skipEnds fuel
  if (← peek).isNone then return none
  let handles ← directives fuel false []
  expect .documentStart
  if (← peek).all isDocumentToken then return some Node.empty
  return some (← node handles fuel true false)

def document (fuel : Nat) : Composing (Option Node) := do
  -- the first document needs no sign of its own
  let begins : Bool :=
    match ← peek with
    | some (.directive _) => true
    | some .documentStart => true
    | none => true
    | _ => false
  let found ← if begins then markedDocument fuel
    else some <$> node usualHandles fuel true false
  skipEnds fuel
  match ← peek with
  | none => return found
  | t => unexpected t

end Composing

/-- The node of the only document among some tokens, if there is a document. -/
def Node.ofTokens (tokens : List Token) : Except Fault (Option Node) :=
  (Composing.document (4 * tokens.length + 8)).run' ⟨tokens, []⟩

end Yaml
end RoleAudit
