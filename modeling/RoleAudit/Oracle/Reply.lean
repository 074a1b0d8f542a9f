import RoleAudit.Controller.Facts
import RoleAudit.Text.Blank
import RoleAudit.Text.Case
import RoleAudit.Text.Class
import RoleAudit.Text.Cut

/-!
# Replies

A reply in words, as far as it gives values for names. It is not trusted: whatever it says, only the
names that were asked for get a value.

- `cleanReply`: the pairs `name: value` of a reply, without what surrounds them;
- `readPairs`: the value for each name that was asked for, or the empty text.
-/

namespace RoleAudit

open RoleAudit.Text

/-! ## Chatter -/

/-- Marks that begin an item of a list. -/
def bullets : List Char := ['-', '*', '•']

/-- The text after the mark of a list item, if there is one: a bullet, or a number. -/
def afterBullet (cs : List Char) : List Char :=
  match cs with
  | [] => []
  | c :: rest =>
    if bullets.contains c then rest
    -- a number is a mark only with a dot or a bracket after it
    else if isDecimal c then
      match cs.dropWhile isDecimal with
      | d :: after => if d == '.' || d == ')' then after else cs
      | [] => cs
    else cs

/-- The text after a backquote, if there is one. -/
def afterTick : List Char → List Char
  | '`' :: rest => rest
  | cs => cs

/-- The name and the value of a piece that gives both. -/
def pieceParts? (piece : List Char) : Option (List Char × List Char) :=
  -- the name may stand between backquotes
  let start := afterTick ((afterBullet (piece.dropWhile isBlank)).dropWhile isBlank)
  let name := start.takeWhile isWord
  let rest := (afterTick (start.dropWhile isWord)).dropWhile isBlank
  match name, rest with
  | [], _ => none
  | _ :: _, ':' :: value => some (name, trim value)
  | _ :: _, _ => none

def cleanPiece? (piece : List Char) : Option String :=
  (pieceParts? piece).map fun (name, value) => String.ofList (name ++ ':' :: ' ' :: value)

/-- The pairs of a reply, joined by commas. -/
def cleanReply (reply : String) : String :=
  joinWith "," ((pieces (fun c => c == '\n' || c == ',') reply.toList).filterMap cleanPiece?)

/-! ## Pairs -/

/-- Values that mean that there is none, in lower case. -/
def emptyAnswers : List String :=
  ["", "none", "null", "n/a", "na", "entityname", "constraint", "\"\"", "''"]

/-- Quotes around names and values. -/
def isReplyQuote (c : Char) : Bool :=
  c == '`' || c == '"' || c == '\''

def pairParts? (pair : String) : Option (String × String) :=
  (cut? (· == ':') pair.toList).map fun (name, value) =>
    (String.ofList (trimOf isReplyQuote (trim name)),
      String.ofList (trim (trimOf isReplyQuote (trim value))))

/-- The expected name that a name means: itself, or the last one that differs only in case. -/
def meantName? (expected : List String) (name : String) : Option String :=
  if expected.contains name then some name
  else expected.reverse.find? fun e => lower e == lower name

def isEmptyAnswer (value : String) : Bool :=
  emptyAnswers.contains (lower value)

/-- Keep a value for a name that has none yet. -/
def keepFirst (known : List (String × String)) (name value : String) : List (String × String) :=
  known.map fun (n, v) => (n, if n == name && v.isEmpty then value else v)

/-- What one pair adds to the values known so far. -/
def addPair (expected : List String) (known : List (String × String)) (pair : String) :
    List (String × String) :=
  match pairParts? pair with
  | none => known
  | some (name, value) =>
    match meantName? expected name with
    | none => known
    | some key => if isEmptyAnswer value then known else keepFirst known key value

/-- The value that a text gives each expected name first, or the empty text. -/
def readPairs (reply : String) (expected : List String) : List (String × String) :=
  (splitAt ',' reply).foldl (addPair expected) ((distinct expected).map fun n => (n, ""))

end RoleAudit
