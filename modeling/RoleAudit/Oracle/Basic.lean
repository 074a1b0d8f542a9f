import RoleAudit.Controller.Facts
import RoleAudit.Log
import RoleAudit.Oracle.Reply
import RoleAudit.Setting

/-!
# Oracles

An oracle says which entity a service method works on, and which condition a policy enforces. Its
answers are not trusted: a name that it leaves out, or gives an empty value, is unresolved.

- `Oracle`: answers as functions of the question;
- `Question`: what an oracle was asked;
- `Oracle.fixed`: an oracle with given answers;
- `Oracle.asking`: an oracle that asks an assistant in words and reads its reply.
-/

namespace RoleAudit

abbrev Answers := List (String × String)

/-- An oracle; a failure is its text. -/
structure Oracle where
  name : String
  /-- The entity of each service method, from the text of the service. -/
  entities : (methods : List String) → (source : String) → Traced (Except String Answers)
  /-- The condition of each policy, from the text of the policies and the endpoints with them. -/
  constraints : (policies : List String) → (uses : List (String × String)) → (source : String) →
    Traced (Except String Answers)

/-- What an oracle was asked. -/
inductive Question where
  | entities (methods : List String) (source : String)
  | constraints (policies : List String) (source : String)
  deriving Repr

namespace Question

/-- The written name of the kind of a question. -/
def kind : Question → String
  | entities _ _ => "entities"
  | constraints _ _ => "constraints"

def names : Question → List String
  | entities methods _ => methods
  | constraints policies _ => policies

/-- A question about entities in words. -/
def entityPrompt (methods : List String) (source : String) : String :=
  let listed := Text.joinWith "\n" methods
  let form := Text.joinWith "," (methods.map fun m => m ++ ": entityName")
  "Extract the SINGLE most important entity being directly manipulated in each of these " ++
    "functions:\n" ++ listed ++
    "\n\nInstructions:\n" ++
    "1. For each function, identify exactly ONE entity name: the primary data object being " ++
    "manipulated.\n" ++
    "2. If several entities appear, choose the one central to the function's purpose.\n" ++
    "3. Use the data model/object name, not a variable or DTO name.\n\n" ++
    "Format your response exactly as follows:\n" ++ form ++
    "\n\nRespond with ONLY the entity names in that format. " ++
    "No introduction, explanation or extra text.\n\n" ++
    "Source code:\n\"\"\"\n" ++ source ++ "\n\"\"\""

/-- A question about conditions in words. -/
def constraintPrompt (policies : List String) (source : String) : String :=
  let listed := Text.joinWith ", " policies
  let form := Text.joinWith "," (policies.map fun p => p ++ ": constraint")
  "Identify the constraint enforced by each of these policy classes: " ++ listed ++
    "\n\nThe constraint of a policy class is the string passed to super('...') " ++
    "in its constructor.\n\n" ++
    "Format your response exactly as follows:\n" ++ form ++
    "\n\nUse an empty value for a class without a constraint. No explanations or extra text.\n\n" ++
    "Source code:\n\"\"\"\n" ++ source ++ "\n\"\"\""

def prompt : Question → String
  | entities methods source => entityPrompt methods source
  | constraints policies source => constraintPrompt policies source

/-- The beginning of the report of a reply. -/
def replyLabel : Question → String
  | entities _ _ => "Entity"
  | constraints _ _ => "Constraint"

end Question

/-! ## Fixed answers -/

/-- The values for some names, as far as they are known. -/
def knownFor (known : List (String × α)) (names : List String) : List (String × α) :=
  -- a name that is asked for twice is answered once
  tableOf (names.filterMap fun n => (known.lookup n).map fun v => (n, v))

/-- An oracle with given answers. -/
def Oracle.fixed (entities constraints : Answers) : Oracle where
  name := "mapping"
  entities methods _ := return .ok (knownFor entities methods)
  constraints policies _ _ := return .ok (knownFor constraints policies)

/-! ## Asking an assistant -/

/-- How an assistant is asked. -/
structure AskingOptions where
  maxTokens : Setting
  temperature : Setting
  debug : Bool

/-- The usual way to ask. -/
def AskingOptions.usual : AskingOptions :=
  ⟨.int 1000, .float 0, false⟩

/-- An assistant answers a prompt, or fails with a text. -/
abbrev Assistant := (prompt : String) → (maxTokens temperature : Setting) → Except String String

/-- Ask an assistant; nobody is asked about nothing. -/
def askAssistant (assistant : Assistant) (options : AskingOptions) (q : Question) :
    Traced (Except String Answers) :=
  if q.names.isEmpty then return .ok []
  else
    match assistant q.prompt options.maxTokens options.temperature with
    | .error e => return .error e
    | .ok reply => do
      Traced.noteIf options.debug .debug .oracle s!"[ORACLE] {q.replyLabel} response: {reply}"
      return .ok (readPairs (cleanReply reply) q.names)

def Oracle.asking (assistant : Assistant) (options : AskingOptions) : Oracle where
  name := "llm"
  entities methods source := askAssistant assistant options (.entities methods source)
  constraints policies _ source := askAssistant assistant options (.constraints policies source)

end RoleAudit
