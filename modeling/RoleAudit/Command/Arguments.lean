import RoleAudit.Text.Class
import RoleAudit.Text.Cut
import RoleAudit.Text.Quoted

/-!
# Arguments of a command

How the words after the name of a command are read.

- options have names that begin with one or two dashes; a long name may be shortened as long as
  only one name begins so, and a value may be attached to a name;
- all other words are operands; after two dashes alone, every word is;
- `Grammar.read`: the values of options and operands, a wish for help, or an error.

Words are read from left to right, and the first error counts; that operands are missing or too many
is only found out at the end.
-/

namespace RoleAudit
namespace Command

open RoleAudit.Text

/-- What an option does. -/
inductive OptionKind where
  /-- It asks for help. -/
  | help
  /-- It stands for itself. -/
  | switch
  /-- It takes a value, one of some choices if there are any. -/
  | value (choices : List String)
  deriving DecidableEq, Repr

structure OptionRule where
  /-- What it is called inside the program. -/
  key : String
  names : List String
  kind : OptionKind
  deriving DecidableEq, Repr

/-- The options and the operands of a command. -/
structure Grammar where
  options : List OptionRule
  operands : List String

/-- Why arguments cannot be read. -/
inductive ArgumentError where
  | ambiguous (word : String) (names : List String)
  | noValue (rule : OptionRule)
  | badChoice (rule : OptionRule) (value : String)
  | unwantedValue (rule : OptionRule) (value : String)
  | missing (operands : List String)
  | unrecognized (words : List String)
  deriving DecidableEq, Repr

def OptionRule.choices (rule : OptionRule) : List String :=
  match rule.kind with
  | .value choices => choices
  | _ => []

def ArgumentError.message (e : ArgumentError) : String :=
  let about (rule : OptionRule) : String := "argument " ++ joinWith "/" rule.names ++ ": "
  match e with
  | ambiguous word names => s!"ambiguous option: {word} could match " ++ joinWith ", " names
  | noValue rule => about rule ++ "expected one argument"
  | badChoice rule value =>
    about rule ++ "invalid choice: " ++ quoted value ++ " (choose from " ++
      joinWith ", " (rule.choices.map quoted) ++ ")"
  | unwantedValue rule value => about rule ++ "ignored explicit argument " ++ quoted value
  | missing operands => "the following arguments are required: " ++ joinWith ", " operands
  | unrecognized words => "unrecognized arguments: " ++ joinWith " " words

/-! ## Words -/

/-- What a word is. -/
inductive Word where
  | operand (text : String)
  /-- Two dashes alone. -/
  | separator
  /-- An option by one of its names, with an attached value. -/
  | option (rule : OptionRule) (name : String) (attached : Option String)
  /-- A word that looks like an option and is none. -/
  | unknown (text : String)
  deriving DecidableEq, Repr

/-- A word as it was written; an option is not written out. -/
def Word.text : Word → String
  | operand text => text
  | separator => "--"
  | option _ name _ => name
  | unknown text => text

/-- A word is no option and does not look like one. -/
def Word.isPlain : Word → Bool
  | operand _ => true
  | separator => true
  | _ => false

/-- The names of the options, each with its rule. -/
def Grammar.names (g : Grammar) : List (String × OptionRule) :=
  g.options.flatMap fun rule => rule.names.map fun n => (n, rule)

/-- A word cut at its first equals sign. -/
def cutValue (word : String) : String × Option String :=
  match cut? (· == '=') word.toList with
  | some (name, value) => (String.ofList name, some (String.ofList value))
  | none => (word, none)

/-- The options that a word may mean, where it is not the name of one. -/
def Grammar.meanings (g : Grammar) (word : String) : List Word :=
  if startsWith word "--" then
    let (start, attached) := cutValue word
    (g.names.filter fun (n, _) => startsWith n start).map fun (n, rule) =>
      .option rule n attached
  else
    -- a value may be attached to a short name, and a short form may mean a long name
    let short := String.ofList (word.toList.take 2)
    g.names.filterMap fun (n, rule) =>
      if n == short then some (.option rule n (some (dropFirst word 2)))
      else if startsWith n word then some (.option rule n none)
      else none

/-- A word is written like a negative number. -/
def isNegativeNumber (word : String) : Bool :=
  match word.toList with
  | '-' :: cs =>
    let rest := cs.dropWhile isDecimal
    match rest with
    | [] => !cs.isEmpty
    | '.' :: ds => !ds.isEmpty && ds.all isDecimal
    | _ => false
  | _ => false

/-- What a word is before two dashes alone. -/
def Grammar.wordOf (g : Grammar) (word : String) : Except ArgumentError Word :=
  if !startsWith word "-" then .ok (.operand word)
  else
    match g.names.lookup word with
    | some rule => .ok (.option rule word none)
    | none =>
      let (name, attached) := cutValue word
      if word == "-" then .ok (.operand word)
      else
        match attached, g.names.lookup name with
        | some _, some rule => .ok (.option rule name attached)
        | _, _ =>
          -- a shortened name counts only if one option is meant
          match g.meanings word with
          | [one] => .ok one
          | [] =>
            if isNegativeNumber word || occursIn word " " then .ok (.operand word)
            else .ok (.unknown word)
          | several => .error (.ambiguous word (several.map Word.text))

/-- What the words are. -/
def Grammar.wordsOf (g : Grammar) : List String → Except ArgumentError (List Word)
  | [] => .ok []
  | word :: rest =>
    if word == "--" then .ok (.separator :: rest.map .operand)
    else do
      let first ← g.wordOf word
      return first :: (← g.wordsOf rest)

/-! ## Reading -/

/-- What was read so far. -/
structure Reading where
  /-- The values of options and operands, the latest first. -/
  values : List (String × String)
  /-- The operands that are still to come. -/
  pending : List String
  /-- Words that nothing can be made of. -/
  extras : List String

/-- What the arguments of a command say. -/
inductive Arguments where
  | help
  | values (entries : List (String × String))

/-- A step of reading; it may end in a wish for help. -/
inductive ReadingStep where
  | help
  | goOn (reading : Reading) (rest : List Word)

/-- Keep a value of an option. -/
def Reading.keep (r : Reading) (key value : String) : Reading :=
  { r with values := (key, value) :: r.values }

/-- The value that stands for a switch that is set. -/
def switchOn : String := "on"

/-- Give operands their words, in order, until a word is no operand. -/
def takeOperands (r : Reading) : List Word → Reading × List Word
  | [] => (r, [])
  | .separator :: rest =>
    -- the dashes go with the operand after them
    match rest, r.pending with
    | .operand text :: rest, key :: pending =>
      takeOperands { r.keep key text with pending := pending } rest
    | rest, _ => (r, .separator :: rest)
  | .operand text :: rest =>
    match r.pending with
    | [] => (r, .operand text :: rest)
    | key :: pending =>
      let r := { r.keep key text with pending := pending }
      match rest with
      | .separator :: rest => takeOperands r rest
      | rest => takeOperands r rest
  | w :: rest => (r, w :: rest)

/-- Give an option a value. -/
def giveValue (r : Reading) (rule : OptionRule) (value : String) : Except ArgumentError Reading :=
  if rule.choices.isEmpty || rule.choices.contains value then .ok (r.keep rule.key value)
  else .error (.badChoice rule value)

/-- Give an option a value, unless help was asked for before it. -/
def readValue (r : Reading) (asked : Bool) (rule : OptionRule) (value : String)
    (rest : List Word) : Except ArgumentError ReadingStep :=
  if asked then .ok .help else (giveValue r rule value).map fun r => .goOn r rest

/--
Read an option; a value may be attached to it, and more options to a short name that takes none.
Help may have been asked for before it.
-/
def readOption (g : Grammar) (rest : List Word) : (fuel : Nat) → Reading → (asked : Bool) →
    OptionRule → (name : String) → (attached : Option String) →
    Except ArgumentError ReadingStep
  | 0, r, _, _, _, _ => .ok (.goOn r rest)
  | fuel + 1, r, asked, rule, name, attached =>
    match rule.kind, attached with
    | .value _, some value => readValue r asked rule value rest
    | .value _, none =>
      match rest with
      | .operand value :: rest => readValue r asked rule value rest
      | _ => .error (.noValue rule)
    | kind, none =>
      if asked || kind == .help then .ok .help else .ok (.goOn (r.keep rule.key switchOn) rest)
    | kind, some value =>
      match value.toList with
      | [] => .error (.unwantedValue rule value)
      | c :: cs =>
        -- what is attached to a switch are further switches
        let next := String.ofList ['-', c]
        if startsWith name "--" then .error (.unwantedValue rule value)
        else
          match g.names.lookup next with
          | none => .error (.unwantedValue rule value)
          | some other =>
            let r := if kind == .help then r else r.keep rule.key switchOn
            readOption g rest fuel r (asked || kind == .help) other next
              (if cs.isEmpty then none else some (String.ofList cs))

/-- Read words up to their end. -/
def readWords (g : Grammar) : Nat → Reading → List Word → Except ArgumentError ReadingStep
  | 0, r, words => .ok (.goOn r words)
  | fuel + 1, r, words =>
    let (r, words) := takeOperands r words
    -- operands that nothing waits for
    let plain := words.takeWhile Word.isPlain
    let r := { r with extras := r.extras ++ plain.map Word.text }
    match words.dropWhile Word.isPlain with
    | [] => .ok (.goOn r [])
    | .unknown text :: rest => readWords g fuel { r with extras := r.extras ++ [text] } rest
    | .option rule name attached :: rest => do
      let most := (attached.getD "").length + 2
      match ← readOption g rest most r false rule name attached with
      | .help => return .help
      | .goOn r rest => readWords g fuel r rest
    | _ :: rest => readWords g fuel r rest

/-- The values that arguments give, or a wish for help. -/
def Grammar.read (g : Grammar) (arguments : List String) : Except ArgumentError Arguments := do
  let words ← g.wordsOf arguments
  match ← readWords g (words.length + 1) ⟨[], g.operands, []⟩ words with
  | .help => return .help
  | .goOn r _ =>
    -- missing operands are reported before those that are too many
    if !r.pending.isEmpty then throw (.missing r.pending)
    if !r.extras.isEmpty then throw (.unrecognized r.extras)
    return .values r.values

end Command
end RoleAudit
