import RoleAudit.Assistant.Payload
import RoleAudit.Assistant.Usage
import RoleAudit.Json.Printer
import RoleAudit.Log
import RoleAudit.Oracle.Basic
import RoleAudit.Setting.Json
import RoleAudit.Text.Blank

/-!
# Clients of an assistant

An assistant is reached through one of two services. The first one is tried first, unless it is not
wanted; without it the second one is used, if there is a key for it.

- `Services`: what there is to reach, and what it replies;
- `Client`: a way to one service, with the usage that went over it;
- `Session`: all clients, with the usage of all of them;
- `Session.connect`, `Session.call`, `Session.track`: the operations. A call whose reply cannot be
  read or counted changes no totals.
-/

namespace RoleAudit

/-- A request to an assistant. -/
structure Request where
  prompt : String
  maxTokens : Setting
  temperature : Setting

/-- A reply with its counts. -/
structure Message where
  text : String
  input : Int
  output : Int

/-- How a service can be reached. -/
inductive Availability (ρ : Type) where
  | absent (reason : String)
  | refusing (reason : String)
  | ready (reply : Request → Except String ρ)

/-- What there is to reach. -/
structure Services where
  /-- The first service; its replies are texts that hold a payload. -/
  bedrock : Availability String
  /-- The second service; its replies are messages. -/
  anthropic : Availability Message
  /-- The key for the second service, or the empty text. -/
  key : String
  region : String
  bedrockModel : String
  anthropicModel : String

/-- The usual region and models, with nothing to reach. -/
def Services.none (bedrockReason anthropicReason : String) : Services where
  bedrock := .absent bedrockReason
  anthropic := .absent anthropicReason
  key := ""
  region := "us-east-1"
  bedrockModel := "us.anthropic.claude-3-5-sonnet-20241022-v2:0"
  anthropicModel := "claude-3-5-sonnet-20241022"

/-- What went to a service. -/
inductive Contact where
  | openBedrock (region : String) (readTimeout connectTimeout : Setting)
  | sendBedrock (model body : String)
  | openAnthropic (key : String) (timeout : Setting)
  | sendAnthropic (model : String) (request : Request)

/-- A service that is reached. -/
inductive Service where
  | bedrock (model : String) (reply : Request → Except String String)
  | anthropic (model : String) (reply : Request → Except String Message)

def Service.name : Service → String
  | bedrock _ _ => "Bedrock"
  | anthropic _ _ => "Anthropic API"

def Service.isBedrock : Service → Bool
  | bedrock _ _ => true
  | anthropic _ _ => false

/-! ## Connecting -/

/-- The longest time to wait for a connection, in seconds. -/
def longestConnect : Int := 10

/-- The time to wait for a connection, at most as long as for a reply. -/
def connectTimeout (timeout : Setting) : Except String Setting :=
  match timeout with
  | .int n => .ok (.int (if longestConnect < n then longestConnect else n))
  | v =>
    match v.number? with
    | some x => .ok (if Decimal.floatOfInt longestConnect < x then .int longestConnect else v)
    | none => .error s!"'<' not supported between instances of 'int' and '{v.kindName}'"

/-- Report about the ways to an assistant. -/
def noteClient (message : String) : Traced Unit :=
  Traced.note .debug .assistant ("[AI CLIENT] " ++ message)

/-- Try the first service. -/
def connectBedrock (s : Services) (timeout : Setting) :
    Traced (Option Service × List Contact) := do
  match s.bedrock with
  | .absent reason => do
    noteClient s!"boto3 unavailable: {reason}"
    return (none, [])
  | .refusing reason =>
    match connectTimeout timeout with
    | .error e => do
      noteClient s!"Bedrock not available: {e}"
      return (none, [])
    | .ok connect => do
      noteClient s!"Bedrock not available: {reason}"
      return (none, [.openBedrock s.region timeout connect])
  | .ready reply =>
    match connectTimeout timeout with
    | .error e => do
      noteClient s!"Bedrock not available: {e}"
      return (none, [])
    | .ok connect => do
      noteClient s!"Bedrock client ready ({s.region})"
      return (some (.bedrock s.bedrockModel reply), [.openBedrock s.region timeout connect])

/-- Try the second service. -/
def connectAnthropic (s : Services) (timeout : Setting) :
    Traced (Option Service × List Contact) := do
  if s.key.isEmpty then return (none, [])
  else
    match s.anthropic with
    | .absent reason => do
      noteClient s!"anthropic unavailable: {reason}"
      return (none, [])
    | .refusing reason => do
      noteClient s!"anthropic unavailable: {reason}"
      return (none, [])
    | .ready reply => do
      noteClient "Anthropic API client ready"
      return (some (.anthropic s.anthropicModel reply), [.openAnthropic s.key timeout])

/-- How a client is made. -/
structure ClientOptions where
  useBedrock : Bool
  timeout : Setting
  /-- Every call is reported. -/
  isVerbose : Bool

/-- The usual way to make a client. -/
def ClientOptions.usual : ClientOptions := ⟨true, .float 120, false⟩

/-- A way to a service. -/
structure Client where
  service : Option Service
  isVerbose : Bool
  usage : Usage

/-- Make a client. -/
def Client.connect (s : Services) (o : ClientOptions) : Traced (Client × List Contact) := do
  let (first, contacts) ←
    if o.useBedrock then connectBedrock s o.timeout else pure (none, [])
  -- the second service is only tried if the first one is not there
  match first with
  | some service => return (⟨some service, o.isVerbose, Usage.zero⟩, contacts)
  | none =>
    let (second, more) ← connectAnthropic s o.timeout
    return (⟨second, o.isVerbose, Usage.zero⟩, contacts ++ more)

/-! ## Calling -/

/-- The messages of a request. -/
def Request.messages (r : Request) : Json :=
  .arr [.obj [("role", .str "user"), ("content", .str r.prompt)]]

/-- A request in the words of the first service. -/
def Request.body (r : Request) : String :=
  Json.compact (.obj [("anthropic_version", .str "bedrock-2023-05-31"),
    ("max_tokens", r.maxTokens.toJson), ("temperature", r.temperature.toJson),
    ("messages", r.messages)])

/-- What goes to a service for a request. -/
def Service.contact (s : Service) (r : Request) : Contact :=
  match s with
  | bedrock model _ => .sendBedrock model r.body
  | anthropic model _ => .sendAnthropic model r

/-- The text and the counts that a service gives for a request, as they are. -/
def Service.ask (s : Service) (r : Request) : Except CallError Payload :=
  match s with
  | bedrock _ reply => do Payload.read (← (reply r).mapError .failed)
  | anthropic _ reply => do
    let m ← (reply r).mapError .failed
    return ⟨.str m.text, .int m.input, .int m.output⟩

/-- What a reply counts. -/
def Payload.counts (p : Payload) : Except CallError (Int × Int) := do
  let input ← count p.input
  let output ← count p.output
  return (input, output)

/-- The text of a reply without the blanks around it. -/
def Payload.textOf (p : Payload) : Except CallError String :=
  match p.text with
  | .str s => .ok (Text.strip s)
  | j => .error (.noOperation j.kindName "strip")

/-- All clients, with the usage of all of them. -/
structure Session where
  usage : Usage
  clients : List Client

namespace Session

def empty : Session := ⟨Usage.zero, []⟩

/-- A session with one more client, and what went to the services. -/
def connect (session : Session) (s : Services) (o : ClientOptions) :
    Traced (Session × List Contact) := do
  let (client, contacts) ← Client.connect s o
  return ({ session with clients := session.clients ++ [client] }, contacts)

/-- Count a call of a client, for itself and for the session. -/
def track (session : Session) (i : Nat) (input output : Int) : Session where
  usage := session.usage.record input output
  clients := session.clients.modify i fun c => { c with usage := c.usage.record input output }

/-- The report of a call of a client, if its calls are reported. -/
def trackReport (c : Client) (source : String) (input output : Int) : String :=
  if c.isVerbose then callReport source input output else ""

/-- What a call gives. -/
structure Outcome where
  result : Except CallError String
  contacts : List Contact
  /-- What is printed on the way. -/
  printed : String

/-- Send a request over a client. -/
def call (session : Session) (i : Nat) (r : Request) : Session × Outcome :=
  match session.clients[i]? with
  | none => (session, ⟨.error .unavailable, [], ""⟩)
  | some client =>
    match client.service with
    | none => (session, ⟨.error .unavailable, [], ""⟩)
    | some service =>
      let contacts := [service.contact r]
      match service.ask r with
      | .error e => (session, ⟨.error e, contacts, ""⟩)
      | .ok payload =>
        match payload.counts with
        | .error e => (session, ⟨.error e, contacts, ""⟩)
        | .ok (input, output) =>
          -- a call counts once its tokens are known, even if its text is none
          (session.track i input output,
            ⟨payload.textOf, contacts, trackReport client service.name input output⟩)

/-- Send several requests over a client, one after the other. -/
def callAll (session : Session) (i : Nat) (requests : List Request) : Session × List Outcome :=
  requests.foldl (fun (s, done) r =>
    let (s, outcome) := s.call i r
    (s, done ++ [outcome])) (session, [])

end Session

/-- A client as an assistant, if there is a service to call. -/
def Client.assistant (c : Client) : Option Assistant :=
  c.service.map fun service prompt maxTokens temperature =>
    ((do
      let payload ← service.ask ⟨prompt, maxTokens, temperature⟩
      let _ ← payload.counts
      payload.textOf) : Except CallError String).mapError CallError.message

end RoleAudit
