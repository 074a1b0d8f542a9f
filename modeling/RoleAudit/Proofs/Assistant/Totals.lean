import Mathlib.Algebra.Ring.Int.Defs
import Mathlib.Data.List.Basic
import RoleAudit.Proofs.Assistant.Answers

/-!
# The totals of a session

A call is counted twice, for its client and for the session. It is counted after the reply is read
and before its text is looked at, so that no failure comes between the two totals.

- `Session.Counted`: a call is counted for its client and for the session, and for nobody else;
- `Session.call_cases`: what comes of a call;
- `Session.AddsUp`: the totals of a session are those of its clients taken together, which every
  step keeps;
- `Session.after`: a session after clients were made and calls were tried, in any order and with any
  replies;
- `usage_conserved`: the totals add up after every step, and a call is counted once or not at all.
-/

namespace RoleAudit

/-! ## What a call changes -/

/-- Totals after one more call with two counts. -/
structure Usage.Grown (u v : Usage) (input output : Int) : Prop where
  calls : v.calls = u.calls + 1
  inputTokens : v.inputTokens = u.inputTokens + input
  outputTokens : v.outputTokens = u.outputTokens + output
  cost : v.cost = u.cost + costOf input output

theorem Usage.grown_record (u : Usage) (input output : Int) :
    u.Grown (u.record input output) input output :=
  ⟨rfl, rfl, rfl, rfl⟩

namespace Session

/-- A request over this client goes to this service. -/
def Reaches (s : Session) (i : Nat) (service : Service) : Prop :=
  ∃ c, s.clients[i]? = some c ∧ c.service = some service

/-- A call of a client is counted for it and for the session; other clients stay as they are. -/
structure Counted (s : Session) (i : Nat) (input output : Int) (t : Session) : Prop where
  session : s.usage.Grown t.usage input output
  client : ∃ c d, s.clients[i]? = some c ∧ t.clients[i]? = some d ∧
    c.usage.Grown d.usage input output
  others : ∀ j, j ≠ i → t.clients[j]? = s.clients[j]?

/-- What a call says that returns: the text without the blanks around it, and two counts. -/
def Returns (s : Session) (i : Nat) (r : Request) (text : String) (input output : Int) : Prop :=
  ∃ service reply, s.Reaches i service ∧ service.Answers r (.str reply) input output ∧
    HasPrice input ∧ HasPrice output ∧ text = Text.strip reply

section Call

variable {s : Session} {i : Nat} {r : Request} {service : Service} {client : Client}
  {input output : Int}

theorem counted_track (h : s.clients[i]? = some client) :
    s.Counted i input output (s.track i input output) where
  session := s.usage.grown_record input output
  client := by
    refine ⟨client, { client with usage := client.usage.record input output }, h, ?_,
      client.usage.grown_record input output⟩
    simp [track, h]
  others := by
    intro j hj
    simp [track, hj.symm]

theorem call_of_unreached (h : ∀ service, ¬ s.Reaches i service) :
    s.call i r = (s, ⟨.error .unavailable, [], ""⟩) := by
  unfold call
  cases hclient : s.clients[i]? with
  | none => rfl
  | some c =>
      cases hservice : c.service with
      | none => simp [hservice]
      | some service => exact absurd ⟨c, hclient, hservice⟩ (h service)

theorem call_of_failed (hreaches : s.Reaches i service) {e : CallError}
    (h : service.ask r = .error e) : s.call i r = (s, ⟨.error e, [service.contact r], ""⟩) := by
  obtain ⟨c, hclient, hservice⟩ := hreaches
  simp [call, hclient, hservice, h]

theorem call_of_uncounted (hreaches : s.Reaches i service) {p : Payload} {e : CallError}
    (h : service.ask r = .ok p) (hcounts : p.counts = .error e) :
    s.call i r = (s, ⟨.error e, [service.contact r], ""⟩) := by
  obtain ⟨c, hclient, hservice⟩ := hreaches
  simp [call, hclient, hservice, h, hcounts]

theorem call_of_counted (hreaches : s.Reaches i service) {p : Payload}
    (h : service.ask r = .ok p) (hcounts : p.counts = .ok (input, output)) :
    s.Counted i input output (s.call i r).1 ∧ (s.call i r).2.result = p.textOf := by
  obtain ⟨c, hclient, hservice⟩ := hreaches
  have hcall : (s.call i r).1 = s.track i input output ∧ (s.call i r).2.result = p.textOf := by
    simp [call, hclient, hservice, h, hcounts]
  rw [hcall.1]
  exact ⟨counted_track hclient, hcall.2⟩

/-- A call fails and changes nothing, or its reply is read and counted. -/
theorem call_cases (s : Session) (i : Nat) (r : Request) :
    ((s.call i r).1 = s ∧ (∃ e, (s.call i r).2.result = .error e) ∧
      ∀ service p input output, s.Reaches i service → service.ask r = .ok p →
        p.counts ≠ .ok (input, output)) ∨
    ∃ service p input output, s.Reaches i service ∧ service.ask r = .ok p ∧
      p.counts = .ok (input, output) ∧ s.Counted i input output (s.call i r).1 ∧
      (s.call i r).2.result = p.textOf := by
  by_cases hreached : ∃ service, s.Reaches i service
  · obtain ⟨service, hreaches⟩ := hreached
    -- a client has one service, and that gives one answer
    have hsame : ∀ service', s.Reaches i service' → service' = service := by
      rintro service' ⟨c', hclient', hservice'⟩
      obtain ⟨c, hclient, hservice⟩ := hreaches
      cases hclient.symm.trans hclient'
      exact Option.some.inj (hservice'.symm.trans hservice)
    cases hask : service.ask r with
    | error e =>
        rw [call_of_failed hreaches hask]
        refine .inl ⟨rfl, ⟨e, rfl⟩, ?_⟩
        intro service' p input output hreaches' hask'
        rw [hsame service' hreaches', hask] at hask'
        cases hask'
    | ok p =>
        cases hcounts : p.counts with
        | error e =>
            rw [call_of_uncounted hreaches hask hcounts]
            refine .inl ⟨rfl, ⟨e, rfl⟩, ?_⟩
            intro service' p' input output hreaches' hask'
            rw [hsame service' hreaches', hask] at hask'
            cases hask'
            simp [hcounts]
        | ok counts =>
            obtain ⟨input, output⟩ := counts
            exact .inr ⟨service, p, input, output, hreaches, hask, hcounts,
              call_of_counted hreaches hask hcounts⟩
  · have hnone : ∀ service, ¬ s.Reaches i service := not_exists.1 hreached
    rw [call_of_unreached hnone]
    exact .inl ⟨rfl, ⟨_, rfl⟩, fun service _ _ _ hreaches => absurd hreaches (hnone service)⟩

end Call

/-! ## Totals -/

/-- The totals of the clients, one after the other. -/
def usages (s : Session) : List Usage :=
  s.clients.map Client.usage

/-- The totals of a session are those of its clients taken together. -/
structure AddsUp (s : Session) : Prop where
  calls : s.usage.calls = (s.usages.map Usage.calls).sum
  inputTokens : s.usage.inputTokens = (s.usages.map Usage.inputTokens).sum
  outputTokens : s.usage.outputTokens = (s.usages.map Usage.outputTokens).sum

/-- If one item of a list is another one afterwards, their difference is that of the sums. -/
theorem sum_map_of_changed {α : Type} (f : α → Int) {xs ys : List α} {i : Nat} {x y : α}
    (hx : xs[i]? = some x) (hy : ys[i]? = some y) (hothers : ∀ j, j ≠ i → ys[j]? = xs[j]?) :
    (ys.map f).sum + f x = (xs.map f).sum + f y := by
  induction xs generalizing ys i with
  | nil => simp at hx
  | cons x' xs ih =>
      cases ys with
      | nil => simp at hy
      | cons y' ys =>
          cases i with
          | zero =>
              -- the changed item stands first, and the others are the same
              have hrest : ys = xs := by
                refine List.ext_getElem? fun j => ?_
                simpa using hothers (j + 1) (Nat.succ_ne_zero j)
              simp only [List.getElem?_cons_zero, Option.some.injEq] at hx hy
              simp only [hrest, hx, hy, List.map_cons, List.sum_cons]
              omega
          | succ i =>
              -- it stands further behind
              have hfirst : y' = x' := by simpa using hothers 0 (Nat.succ_ne_zero i).symm
              have hrest : (ys.map f).sum + f x = (xs.map f).sum + f y := by
                refine ih (by simpa using hx) (by simpa using hy) fun j hj => ?_
                simpa using hothers (j + 1) (by omega)
              simp only [hfirst, List.map_cons, List.sum_cons]
              omega

section Totals

variable {s t : Session} {i : Nat} {input output : Int}

theorem AddsUp.of_counted (h : s.AddsUp) (hcounted : s.Counted i input output t) : t.AddsUp := by
  obtain ⟨c, d, hc, hd, hgrown⟩ := hcounted.client
  -- only the totals of the client that was called have changed, and by as much as the session's
  have hadds : ∀ (f : Usage → Int) (n : Int), f t.usage = f s.usage + n →
      f d.usage = f c.usage + n → f s.usage = (s.usages.map f).sum →
      f t.usage = (t.usages.map f).sum := by
    intro f n hsession hclient hbefore
    have hchange : (t.usages.map f).sum + f c.usage = (s.usages.map f).sum + f d.usage := by
      refine sum_map_of_changed f (i := i) ?_ ?_ ?_
      · simp [usages, hc]
      · simp [usages, hd]
      · intro j hj
        simp [usages, hcounted.others j hj]
    omega
  exact ⟨hadds _ _ hcounted.session.calls hgrown.calls h.calls,
    hadds _ _ hcounted.session.inputTokens hgrown.inputTokens h.inputTokens,
    hadds _ _ hcounted.session.outputTokens hgrown.outputTokens h.outputTokens⟩

/-- Totals still add up where the session's are the same, and the clients' give the same sums. -/
theorem AddsUp.of_sums (h : s.AddsUp) (hsession : t.usage = s.usage)
    (hsums : ∀ f : Usage → Int, f Usage.zero = 0 →
      (t.usages.map f).sum = (s.usages.map f).sum) : t.AddsUp where
  calls := by rw [hsession, hsums _ rfl, h.calls]
  inputTokens := by rw [hsession, hsums _ rfl, h.inputTokens]
  outputTokens := by rw [hsession, hsums _ rfl, h.outputTokens]

theorem AddsUp.call (h : s.AddsUp) (i : Nat) (r : Request) : (s.call i r).1.AddsUp := by
  rcases call_cases s i r with ⟨hsame, -⟩ | ⟨_, _, _, _, -, -, -, hcounted, -⟩
  · rw [hsame]
    exact h
  · exact h.of_counted hcounted

/-- A client has called nobody when it is made. -/
theorem usage_connect (services : Services) (o : ClientOptions) :
    (Client.connect services o).value.1.usage = Usage.zero := by
  unfold Client.connect
  dsimp only
  split <;> rw [Traced.value_bind] <;> split <;> rfl

theorem AddsUp.connect (h : s.AddsUp) (services : Services) (o : ClientOptions) :
    (s.connect services o).value.1.AddsUp := by
  have husages : (s.connect services o).value.1.usages = s.usages ++ [Usage.zero] := by
    rw [← usage_connect services o]
    simp [usages, Session.connect]
  refine h.of_sums rfl fun f hzero => ?_
  simp [husages, hzero]

end Totals

/-! ## Runs -/

/-- A session where a client reaches another service, or none. -/
def behind (s : Session) (i : Nat) (service : Option Service) : Session :=
  { s with clients := s.clients.modify i fun c => { c with service := service } }

/-- What happens in a session. -/
inductive Event where
  /-- A client is made. -/
  | connect (services : Services) (options : ClientOptions)
  /-- A request goes over a client; a service replies differently each time. -/
  | call (client : Nat) (service : Option Service) (request : Request)

/-- A session after one more event. -/
def next (s : Session) : Event → Session
  | .connect services options => (s.connect services options).value.1
  | .call i service r => ((s.behind i service).call i r).1

/-- A session after events, from its beginning. -/
def after (events : List Event) : Session :=
  events.foldl next empty

theorem AddsUp.behind {s : Session} (h : s.AddsUp) (i : Nat) (service : Option Service) :
    (s.behind i service).AddsUp := by
  have husages : (s.behind i service).usages = s.usages := by
    refine List.ext_getElem? fun j => ?_
    by_cases hj : i = j <;> cases hc : s.clients[j]? <;> simp [usages, Session.behind, hj, hc]
  refine h.of_sums rfl fun f _ => ?_
  rw [husages]

theorem AddsUp.next {s : Session} (h : s.AddsUp) (e : Event) : (s.next e).AddsUp := by
  cases e with
  | connect services options => exact h.connect services options
  | call i service r => exact (h.behind i service).call i r

theorem addsUp_foldl {s : Session} (h : s.AddsUp) (events : List Event) :
    (events.foldl Session.next s).AddsUp := by
  induction events generalizing s with
  | nil => exact h
  | cons e rest ih => exact ih (h.next e)

theorem addsUp_empty : empty.AddsUp := ⟨rfl, rfl, rfl⟩

end Session

open Session

theorem textOf_cases (p : Payload) :
    (∃ reply, p.text = .str reply ∧ p.textOf = .ok (Text.strip reply)) ∨
      (∀ reply, p.text ≠ .str reply) ∧
        p.textOf = .error (.noOperation p.text.kindName "strip") := by
  unfold Payload.textOf
  cases htext : p.text with
  | str reply => exact .inl ⟨reply, rfl, rfl⟩
  | _ => exact .inr ⟨by rintro _ ⟨⟩, rfl⟩

/-- A call returns what is left of a reply after reading, counting and looking at its text. -/
theorem returns_iff {s : Session} {i : Nat} {r : Request} {text : String} {input output : Int} :
    s.Returns i r text input output ↔
      ∃ service p, s.Reaches i service ∧ service.ask r = .ok p ∧
        p.counts = .ok (input, output) ∧ p.textOf = .ok text := by
  constructor
  · rintro ⟨service, reply, hreaches, hanswers, hinput, houtput, rfl⟩
    obtain ⟨p, hask, htext, hp, hp'⟩ := Service.answers_iff.1 hanswers
    refine ⟨service, p, hreaches, hask, Payload.counts_eq_ok_iff.2 ⟨⟨hp, hinput⟩, hp', houtput⟩, ?_⟩
    simp [Payload.textOf, htext]
  · rintro ⟨service, p, hreaches, hask, hcounts, htextOf⟩
    obtain ⟨⟨hp, hinput⟩, hp', houtput⟩ := Payload.counts_eq_ok_iff.1 hcounts
    rcases textOf_cases p with ⟨reply, htext, hreply⟩ | ⟨-, hnone⟩
    · refine ⟨service, reply, hreaches, Service.answers_iff.2 ⟨p, hask, htext, hp, hp'⟩, hinput,
        houtput, ?_⟩
      exact Except.ok.inj (htextOf.symm.trans hreply)
    · cases hnone.symm.trans htextOf

/--
The totals of a session add up after any events. A call returns exactly if its service answers with
a text and with counts that can be priced; it is counted once, with these counts, for its client and
for the session, and no other client changes. A call whose service fails, or whose reply cannot be
read, changes nothing; and neither does any other call that fails, but for one whose reply is
counted and then turns out to have no text.
-/
theorem usage_conserved :
    (∀ events : List Event, (Session.after events).AddsUp) ∧
    ∀ (s : Session) (i : Nat) (r : Request),
      (∀ text, (s.call i r).2.result = .ok text ↔ ∃ input output, s.Returns i r text input output) ∧
      (∀ text input output, s.Returns i r text input output →
        s.Counted i input output (s.call i r).1) ∧
      (∀ service e, s.Reaches i service → service.ask r = .error e →
        (s.call i r).2.result = .error e ∧ (s.call i r).1 = s) ∧
      (∀ e, (s.call i r).2.result = .error e → (s.call i r).1 = s ∨
        ∃ service text input output, s.Reaches i service ∧
          service.Answers r text input output ∧ (∀ reply, text ≠ .str reply) ∧
          e = .noOperation text.kindName "strip" ∧ s.Counted i input output (s.call i r).1) := by
  refine ⟨fun events => addsUp_foldl addsUp_empty events, fun s i r => ⟨?_, ?_, ?_, ?_⟩⟩
  · intro text
    -- a result is a text exactly if the call is counted and its text can be stripped
    simp only [returns_iff]
    constructor
    · intro hresult
      rcases call_cases s i r with
        ⟨-, ⟨e, he⟩, -⟩ | ⟨service, p, input, output, hreaches, hask, hcounts, -, htextOf⟩
      · cases he.symm.trans hresult
      · exact ⟨input, output, service, p, hreaches, hask, hcounts, htextOf.symm.trans hresult⟩
    · rintro ⟨input, output, service, p, hreaches, hask, hcounts, htextOf⟩
      exact (call_of_counted hreaches hask hcounts).2.trans htextOf
  · intro text input output hreturns
    obtain ⟨service, p, hreaches, hask, hcounts, -⟩ := returns_iff.1 hreturns
    exact (call_of_counted hreaches hask hcounts).1
  · intro service e hreaches hask
    rw [call_of_failed hreaches hask]
    exact ⟨rfl, rfl⟩
  · intro e hresult
    rcases call_cases s i r with
      ⟨hsame, -⟩ | ⟨service, p, input, output, hreaches, hask, hcounts, hcounted, htextOf⟩
    · exact .inl hsame
    · -- a call that is counted and fails had a text that is none
      rcases textOf_cases p with ⟨reply, -, hreply⟩ | ⟨htextless, hnone⟩
      · cases (htextOf.trans hreply).symm.trans hresult
      · obtain ⟨⟨hp, -⟩, hp', -⟩ := Payload.counts_eq_ok_iff.1 hcounts
        refine .inr ⟨service, p.text, input, output, hreaches,
          Service.answers_iff.2 ⟨p, hask, rfl, hp, hp'⟩, htextless, ?_, hcounted⟩
        exact Except.error.inj (hresult.symm.trans (htextOf.trans hnone))

/-- A service that replies with a payload. -/
def payloadService (content usage : String) : Service :=
  .bedrock "b" fun _ => .ok ("\x7b\"content\": [" ++ content ++ "]" ++ usage ++ "\x7d")

/-- A service that replies with a message. -/
def messageService : Service :=
  .anthropic "a" fun _ => .ok ⟨" none ", 7, 3⟩

/-- A service that fails. -/
def failingService : Service :=
  .bedrock "b" fun _ => .error "timed out"

/-- A service whose payload has a number in place of its text. -/
def textlessService : Service :=
  payloadService "\x7b\"text\": 5\x7d" ", \"usage\": \x7b\"output_tokens\": 2\x7d"

/-- A request with the usual limits. -/
def plainRequest : Request :=
  ⟨"entities?", .int 1000, .int 0⟩

/-- Two clients, and calls that go well, without usage, without a reply, a part and a text. -/
def mixedEvents : List Session.Event :=
  [.connect (Services.none "" "") .usual, .connect (Services.none "" "") .usual,
    .call 0 (payloadService "\x7b\"text\": \"list: account\"\x7d" "") plainRequest,
    .call 1 messageService plainRequest, .call 0 failingService plainRequest,
    .call 1 (payloadService "" "") plainRequest, .call 0 textlessService plainRequest]

/-- The two clients before any call, where the second one reaches a service. -/
def secondReaching (service : Service) : Session :=
  (Session.after (mixedEvents.take 2)).behind 1 service

theorem usage_conserved_mixedEvents :
    ((Session.after mixedEvents).AddsUp ∧
      (Session.after mixedEvents).usages.map (fun u => (u.calls, u.inputTokens, u.outputTokens)) =
        [(2, 0, 2), (1, 7, 3)]) ∧
    (∃ input output,
      (secondReaching messageService).Returns 1 plainRequest "none" input output ∧
      (secondReaching messageService).Counted 1 input output
        ((secondReaching messageService).call 1 plainRequest).1) ∧
    ((secondReaching failingService).Reaches 1 failingService ∧
      failingService.ask plainRequest = .error (.failed "timed out") ∧
      ((secondReaching failingService).call 1 plainRequest).1 = secondReaching failingService) ∧
    ((secondReaching textlessService).call 1 plainRequest).2.result =
        .error (.noOperation "int" "strip") ∧
      ∃ input output, (secondReaching textlessService).Counted 1 input output
        ((secondReaching textlessService).call 1 plainRequest).1 := by
  refine ⟨⟨usage_conserved.1 mixedEvents, by decide +kernel⟩, ?_, ?_, ?_⟩
  · obtain ⟨hreturns, hcounted, -⟩ :=
      usage_conserved.2 (secondReaching messageService) 1 plainRequest
    obtain ⟨input, output, h⟩ := (hreturns "none").1 (by decide +kernel)
    exact ⟨input, output, h, hcounted _ _ _ h⟩
  · have hreaches : (secondReaching failingService).Reaches 1 failingService := ⟨_, rfl, rfl⟩
    have hask : failingService.ask plainRequest = .error (.failed "timed out") := rfl
    obtain ⟨-, -, hfailed, -⟩ :=
      usage_conserved.2 (secondReaching failingService) 1 plainRequest
    exact ⟨hreaches, hask, (hfailed _ _ hreaches hask).2⟩
  · have hresult : ((secondReaching textlessService).call 1 plainRequest).2.result =
        .error (.noOperation "int" "strip") := by decide +kernel
    obtain ⟨-, -, -, herror⟩ :=
      usage_conserved.2 (secondReaching textlessService) 1 plainRequest
    refine ⟨hresult, ?_⟩
    rcases herror _ hresult with hsame | ⟨_, _, input, output, -, -, -, -, hcounted⟩
    · have hcalls : ((secondReaching textlessService).call 1 plainRequest).1.usage.calls ≠
          (secondReaching textlessService).usage.calls := by decide +kernel
      exact absurd (congrArg (fun s => s.usage.calls) hsame) hcalls
    · exact ⟨input, output, hcounted⟩

end RoleAudit
