import RoleAudit.Xml.Element
import RoleAudit.Xml.Namespace
import RoleAudit.Xml.Source

/-!
# Documents

`readText` and `readOctets` turn a document into its root element. A document type declaration is
refused as soon as it is read up to its internal subset or its end.

A text is read as UTF-8 whatever its declaration says; octets are read as they declare.
-/

namespace RoleAudit
namespace Xml

/-- Why reading stops: a fault at the text that it starts, or a refused construct. -/
inductive Halt where
  | fault (fault : Fault) (remaining : List Char)
  | documentType (declaration : DocumentType)

def Stop.halt (s : Stop) : Halt :=
  .fault s.fault s.remaining

/-- The stop for a text that ends inside the piece that starts at `start`. -/
def shortHalt (ending : Ending) (start : List Char) : Halt :=
  match ending with
  | .complete => .fault .unclosedToken start
  | .cutUnit => .fault .unclosedToken start
  | .cutCharacter => .fault .partialCharacter start
  | .broken => .fault .invalidToken []

/-- The outcome of a scan that started at `start`. -/
def settle (ending : Ending) (start : List Char) : Scan α → Except Halt (α × List Char)
  | .found value rest => .ok (value, rest)
  | .bad rest => .error (.fault .invalidToken rest)
  | .short => .error (shortHalt ending start)

/-- The outcome of a scan outside the root element; a word has to end before the text is cut. -/
def settleMisc (ending : Ending) (start : List Char) (scan : Scan Misc) :
    Except Halt (Misc × List Char) :=
  match scan, ending with
  | .found piece [], .complete => .ok (piece, [])
  | .found piece [], _ => if piece.mayGoOn then .error (shortHalt ending start) else .ok (piece, [])
  | scan, _ => settle ending start scan

/-! ## The declaration of a document -/

def isInnerBlank (c : Char) : Bool :=
  isXmlBlank c

/-- A pseudo attribute: its name, its value, and the texts that they start. -/
structure Pseudo where
  name : List Char
  value : List Char
  nameStart : List Char
  valueStart : List Char

def isPseudoChar (c : Char) : Bool :=
  c.isAlphanum || c == '.' || c == '-' || c == '_'

/--
Read a pseudo attribute from the part of a declaration before its end. Gives nothing where only
blanks are left, and the text that does not fit on a failure.
-/
def pseudo? (cs : List Char) : Except (List Char) (Option (Pseudo × List Char)) :=
  match cs with
  | [] => .ok none
  | c :: rest =>
    if !isInnerBlank c then .error cs
    else
      match rest.dropWhile isInnerBlank with
      | [] => .ok none
      | start =>
        let inName (d : Char) : Bool := d.toNat < 128 && d != '=' && !isInnerBlank d
        let name := start.takeWhile inName
        match (start.dropWhile inName).dropWhile isInnerBlank with
        | '=' :: rest =>
          if name.isEmpty then .error start
          else
            match rest.dropWhile isInnerBlank with
            | [] => .error []
            | quote :: valueStart =>
              if quote == '"' || quote == '\'' then
                match valueStart.dropWhile isPseudoChar with
                | [] => .error []
                | d :: rest =>
                  if d == quote then
                    .ok (some (⟨name, valueStart.takeWhile isPseudoChar, start, valueStart⟩, rest))
                  else .error (d :: rest)
              else .error (quote :: valueStart)
        | other => .error other

/-- The declared encoding, with the text that its name starts. -/
abbrev DeclaredName := Option (List Char × List Char)

def checkStandalone (p : Pseudo) (rest : List Char) (encoding : DeclaredName) :
    Except (List Char) DeclaredName :=
  if p.name != "standalone".toList then .error p.nameStart
  else if p.value != "yes".toList && p.value != "no".toList then .error p.valueStart
  else
    match rest.dropWhile isInnerBlank with
    | [] => .ok encoding
    | left => .error left

/-- Read the part of a declaration between `<?xml` and `?>`. -/
def declaredEncoding? (cs : List Char) : Except (List Char) DeclaredName := do
  match ← pseudo? cs with
  | none => .error cs
  | some (version, rest) =>
    if version.name != "version".toList then .error version.nameStart
    else
      match ← pseudo? rest with
      | none => .ok none
      | some (p, after) =>
        if p.name == "encoding".toList then
          match p.valueStart with
          | c :: _ =>
            -- the name of an encoding begins with a letter
            if c.isAlpha then
              let found : DeclaredName := some (p.value, p.valueStart)
              match ← pseudo? after with
              | none => .ok found
              | some (p, after) => checkStandalone p after found
            else .error p.valueStart
          | [] => .error []
        else checkStandalone p after none

/-! ## The prolog -/

/-- Where the reading of a document type declaration stands. -/
inductive TypeStage where
  | name
  | afterName
  | publicId
  | systemId
  | afterIds

def isPublicChar (c : Char) : Bool :=
  c.isAlphanum || "-'()+,/=?\r\n;!*%#: ._$@".toList.contains c

/-- Blanks become single spaces, and none stay at the ends. -/
def collapse (cs : List Char) : List Char :=
  let isGap (c : Char) : Bool := c == ' ' || c == '\r' || c == '\n'
  let step (done : List Char) (c : Char) : List Char :=
    if isGap c then (match done with | [] => [] | d :: _ => if d == ' ' then done else ' ' :: done)
    else c :: done
  ((cs.foldl step []).dropWhile (· == ' ')).reverse

/-- Read a document type declaration after its keyword; it always ends in a refusal or a fault. -/
def readDocumentType (ending : Ending) : Nat → TypeStage → DocumentType → List Char → Halt
  | 0, _, _, cs => .fault .syntaxFault cs
  | fuel + 1, stage, d, cs =>
    match cs, ending with
    | [], .complete => .fault .noElement []
    | [], _ => shortHalt ending []
    | cs, _ =>
      match settleMisc ending cs (scanProlog cs) with
      | .error halt => halt
      | .ok (.blank, rest) => readDocumentType ending fuel stage d rest
      | .ok (.parameterReference, _) => .fault .parameterReference cs
      | .ok (.declaration, _) => .fault .misplacedDeclaration cs
      -- what may come next depends on what has been read
      | .ok (piece, rest) =>
        match stage, piece with
        | .name, .name n =>
          readDocumentType ending fuel .afterName { d with name := String.ofList n } rest
        -- the refusal comes before anything inside the brackets is read
        | .afterName, .openBracket => .documentType d
        | .afterName, .close => .documentType d
        | .afterName, .name n =>
          if n == "SYSTEM".toList then readDocumentType ending fuel .systemId d rest
          else if n == "PUBLIC".toList then readDocumentType ending fuel .publicId d rest
          else .fault .syntaxFault cs
        | .publicId, .literal text =>
          match text.dropWhile isPublicChar with
          | [] =>
            readDocumentType ending fuel .systemId
              { d with publicId := some (String.ofList (collapse text)) } rest
          | bad => .fault .badPublicId (cs.drop (1 + (text.length - bad.length)))
        | .systemId, .literal text =>
          readDocumentType ending fuel .afterIds
            { d with systemId := some (String.ofList text) } rest
        | .afterIds, .openBracket => .documentType d
        | .afterIds, .close => .documentType d
        | _, _ => .fault .syntaxFault cs

/-- Read up to the root element; gives the text that the root element starts. -/
def readProlog (ending : Ending) : Nat → List Char → Except Halt (List Char)
  | 0, cs => .error (.fault .noElement cs)
  | fuel + 1, cs =>
    match cs, ending with
    | [], .complete => .error (.fault .noElement [])
    | [], _ => .error (shortHalt ending [])
    | cs, _ => do
      match ← settleMisc ending cs (scanProlog cs) with
      | (.blank, rest) => readProlog ending fuel rest
      | (.comment, rest) => readProlog ending fuel rest
      | (.instruction, rest) => readProlog ending fuel rest
      | (.element, rest) => .ok rest
      | (.declaration, _) => .error (.fault .misplacedDeclaration cs)
      | (.parameterReference, _) => .error (.fault .parameterReference cs)
      | (.markup keyword, rest) =>
        if keyword == "DOCTYPE".toList then
          .error (readDocumentType ending (rest.length + 1) .name ⟨"", none, none⟩ rest)
        else .error (.fault .syntaxFault cs)
      | _ => .error (.fault .syntaxFault cs)

def readEpilog (ending : Ending) : Nat → List Char → Except Halt Unit
  | 0, _ => .ok ()
  | fuel + 1, cs =>
    match cs, ending with
    | [], .complete => .ok ()
    | [], _ => .error (shortHalt ending [])
    | cs, _ => do
      match ← settleMisc ending cs (scanProlog cs) with
      | (.blank, rest) => readEpilog ending fuel rest
      | (.comment, rest) => readEpilog ending fuel rest
      | (.instruction, rest) => readEpilog ending fuel rest
      | _ => .error (.fault .junkAfterRoot cs)

/-! ## Content -/

/-- An element whose end tag has not been read. -/
structure Frame where
  written : List Char
  tag : Entered
  /-- The text so far, backwards; it stops growing at the first child. -/
  text : List Char
  /-- The children so far, backwards; the last one does not have its text after it yet. -/
  children : List Element
  /-- The text since the last child, backwards. -/
  after : List Char

def Frame.opened (written : List Char) (tag : Entered) : Frame :=
  ⟨written, tag, [], [], []⟩

/-- Add a character of content. -/
def Frame.addChar (f : Frame) (c : Char) : Frame :=
  if f.children.isEmpty then { f with text := c :: f.text } else { f with after := c :: f.after }

def Frame.addChars (f : Frame) (cs : List Char) : Frame :=
  cs.foldl Frame.addChar f

/-- The children so far, backwards, each with the text after it. -/
def Frame.settled (f : Frame) : List Element :=
  match f.children with
  | [] => []
  | last :: before => last.withTail (String.ofList f.after.reverse) :: before

def Frame.element (f : Frame) : Element :=
  .node f.tag.name f.tag.attributes (String.ofList f.text.reverse) f.settled.reverse ""

def Frame.addChild (f : Frame) (e : Element) : Frame :=
  { f with children := e :: f.settled, after := [] }

/-- A section of character data up to its end; line ends become line feeds. -/
def readCdata (ending : Ending) : List Char → List Char → Except Halt (List Char × List Char)
  | _, [] =>
    .error <|
      match ending with
      | .broken => .fault .invalidToken []
      | .cutCharacter => .fault .partialCharacter []
      | _ => .fault .unclosedCdata []
  | done, ']' :: ']' :: '>' :: cs => .ok (done.reverse, cs)
  | done, '\r' :: '\n' :: cs => readCdata ending ('\n' :: done) cs
  | done, '\r' :: cs => readCdata ending ('\n' :: done) cs
  | done, c :: cs =>
    match c, cs, ending with
    | ']', [], .complete => .error (.fault .unclosedCdata (c :: cs))
    | ']', [']'], .complete => .error (.fault .unclosedCdata (c :: cs))
    | _, _, _ => readCdata ending (c :: done) cs

def octetCount (cs : List Char) : Nat :=
  cs.foldl (fun n c => n + c.utf8Size) 0

/-- The opening of a section of character data, after its first bracket. -/
def scanCdataOpen (cs : List Char) : Scan Unit :=
  -- a short text counts as cut, even if it does not fit
  if octetCount cs < 6 then .short
  else
    let rec go : List Char → List Char → Scan Unit
      | [], rest => .found () rest
      | c :: expected, rest => (expect c rest).andThen fun _ rest => go expected rest
    go "CDATA[".toList cs

/-- Read the content of the innermost open element up to the end of the root element. -/
def readContent (ending : Ending) :
    Nat → Frame → List Frame → List Char → Except Halt (Element × List Char)
  | 0, _, _, cs => .error (.fault .noElement cs)
  | fuel + 1, top, outer, cs =>
    let close (f : Frame) (outer : List Frame) (rest : List Char) :
        Except Halt (Element × List Char) :=
      match outer with
      | [] => .ok (f.element, rest)
      | parent :: outer => readContent ending fuel (parent.addChild f.element) outer rest
    match cs with
    | [] =>
      match ending with
      | .complete => .error (.fault .noElement [])
      | _ => .error (shortHalt ending [])
    | '<' :: rest =>
      match rest with
      | [] => .error (shortHalt ending cs)
      | '!' :: rest =>
        match rest with
        | [] => .error (shortHalt ending cs)
        | '-' :: rest => do
          let (_, rest) ← settle ending cs (scanComment rest)
          readContent ending fuel top outer rest
        | '[' :: rest => do
          let (_, rest) ← settle ending cs (scanCdataOpen rest)
          let (data, rest) ← readCdata ending [] rest
          readContent ending fuel (top.addChars data) outer rest
        | rest => .error (.fault .invalidToken rest)
      | '?' :: rest => do
        let (isDeclaration, rest) ← settle ending cs (scanInstruction rest)
        if isDeclaration then .error (.fault .misplacedDeclaration cs)
        else readContent ending fuel top outer rest
      | '/' :: nameStart => do
        let (name, rest) ← settle ending cs (scanEndTag nameStart)
        -- names are compared as they are written, with their qualifiers
        if name != top.written then .error (.fault .mismatchedTag nameStart)
        else close top outer rest
      | rest => do
        let (tag, rest) ← settle ending cs (scanTag rest)
        match enter cs top.tag.bindings tag with
        | .error stop => .error stop.halt
        | .ok entered =>
          let frame := Frame.opened tag.name entered
          if tag.closed then close frame (top :: outer) rest
          else readContent ending fuel frame (top :: outer) rest
    | '&' :: rest => do
      match ← settle ending cs (scanReference rest) with
      | (.number n, rest) =>
        if isReferable n then readContent ending fuel (top.addChar (Char.ofNat n)) outer rest
        else .error (.fault .badCharacterReference cs)
      | (.entity name, rest) =>
        match predefined name with
        | some c => readContent ending fuel (top.addChar c) outer rest
        | none => .error (.fault .undefinedEntity cs)
    -- the end of a section outside of one
    | ']' :: ']' :: '>' :: rest => .error (.fault .invalidToken ('>' :: rest))
    | '\r' :: '\n' :: rest => readContent ending fuel (top.addChar '\n') outer rest
    | '\r' :: rest =>
      match rest, ending with
      | [], .complete => .error (.fault .noElement cs)
      | _, _ => readContent ending fuel (top.addChar '\n') outer rest
    | c :: rest => readContent ending fuel (top.addChar c) outer rest

/-- Read the root element, given the text that it starts, and what follows it. -/
def readRoot (ending : Ending) (cs : List Char) : Except Halt Element := do
  let (tag, rest) ← settle ending cs (scanTag (cs.drop 1))
  match enter cs outermost tag with
  | .error stop => .error stop.halt
  | .ok entered =>
    let frame := Frame.opened tag.name entered
    let (element, rest) ←
      if tag.closed then .ok (frame.element, rest)
      else readContent ending (rest.length + 1) frame [] rest
    readEpilog ending (rest.length + 1) rest
    .ok element

/-- Read what follows the declaration of a document. -/
def readBody (ending : Ending) (cs : List Char) : Except Halt Element := do
  readRoot ending (← readProlog ending (cs.length + 1) cs)

/-! ## Whole documents -/

def Halt.error (whole : List Char) : Halt → Error
  | .fault why remaining =>
    .malformed why (Place.start.after (whole.take (whole.length - remaining.length)))
  | .documentType d => .documentType d

/-- The characters of a declaration at the front of a text, if one stands there. -/
def declarationAt (ending : Ending) (cs : List Char) : Except Halt (Option (List Char)) :=
  match cs with
  | '<' :: '?' :: rest => do
    match ← settle ending cs (scanInstruction rest) with
    | (true, after) => .ok (some (cs.take (cs.length - after.length)))
    | (false, _) => .ok none
  | _ => .ok none

def readAs (initial : Encoding) (fixed : Bool) (bytes : Octets) : Except Error Element :=
  let reading := initial.read bytes
  let (mark, cs) :=
    match reading.chars with
    | '\uFEFF' :: cs => (['\uFEFF'], cs)
    | cs => ([], cs)
  let finish (before : List Char) (body : Reading) : Except Error Element :=
    match readBody body.ending body.chars with
    | .ok e => .ok e
    | .error halt => .error (halt.error (before ++ body.chars))
  match declarationAt reading.ending cs with
  | .error halt => .error (halt.error (mark ++ cs))
  | .ok none => finish mark ⟨cs, reading.ending⟩
  | .ok (some declaration) =>
    -- without the five characters before it and the two after it
    let inner := (declaration.drop 5).take (declaration.length - 7)
    let before := mark ++ declaration
    let left := cs.drop declaration.length
    -- The failing part of `inner` is followed by the two characters that end the declaration.
    let failAt (fault : Fault) (part : List Char) : Except Error Element :=
      .error (.malformed fault
        (Place.start.after (mark ++ declaration.take (declaration.length - 2 - part.length))))
    match declaredEncoding? inner with
    | .error part => failAt .badDeclaration part
    | .ok none => finish before ⟨left, reading.ending⟩
    | .ok (some (name, start)) =>
      if fixed then finish before ⟨left, reading.ending⟩
      else
        -- The octets after the declaration are read anew, and those before it count as columns if
        -- each octet is a character now.
        let width := (if mark.isEmpty then 0 else if initial.unit == 2 then 2 else 3) +
          initial.unit * declaration.length
        let again (e : Encoding) : Except Error Element :=
          finish (e.passed before (bytes.take width)) (e.read (bytes.drop width))
        match declared (String.ofList name) with
        | .unknown => .error (.unknownEncoding (String.ofList name))
        | .named (.single chars) => again (.single chars)
        | .named .foreign => failAt .unknownEncoding start
        | .named .multiple => .error .multiByteEncoding
        | .named .textless => .error (.notTextEncoding (String.ofList name))
        | .named (.failing problem) => .error (.unusableEncoding (problem (String.ofList name)))
        | .named .undecodable => .error .undecodable
        | .known e => if initial.unit == e.unit then again e else failAt .wrongEncoding start
        | .sixteen order =>
          match initial, order with
          | .utf16 _, none => finish before ⟨left, reading.ending⟩
          | .utf16 a, some b =>
            if a == b then finish before ⟨left, reading.ending⟩ else failAt .wrongEncoding start
          | _, _ => failAt .wrongEncoding start

/-- Read octets; `fixed` tells that they are UTF-8 whatever they declare. -/
def readFrom (fixed : Bool) (bytes : Octets) : Except Error Element :=
  match detect bytes with
  | none => .error (.malformed .unclosedToken Place.start)
  | some encoding => readAs encoding fixed bytes

def readOctets (bytes : Octets) : Except Error Element :=
  readFrom false bytes

def readText (text : String) : Except Error Element :=
  readFrom true (Text.encodeUtf8 text)

end Xml
end RoleAudit
