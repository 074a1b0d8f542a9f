import RoleAudit.Assistant.Client

/-!
# What a service answers

The reply of a service is a message, or a text that holds a payload. Either way a call reads a text
and two counts from it.

- `Json.whole?`, `HasPrice`: the values that can be counted;
- `Payload.Says`: what a payload says: the text of its first part, and its counts, where those that
  are missing count nothing; `Payload.exists_read_iff`: this is what is read from it;
- `Service.Answers`: what a service says to a request, and `Service.answers_iff`: this is what it is
  asked for.
-/

namespace RoleAudit

theorem bind_eq_ok_iff {ε α β : Type} {x : Except ε α} {f : α → Except ε β} {b : β} :
    (x >>= f) = .ok b ↔ ∃ a, x = .ok a ∧ f a = .ok b := by
  cases x <;> simp [bind, Except.bind]

theorem mapError_eq_ok_iff {ε ε' α : Type} {x : Except ε α} {f : ε → ε'} {a : α} :
    x.mapError f = .ok a ↔ x = .ok a := by
  cases x <;> constructor <;> rintro ⟨⟩ <;> rfl

/-! ## What a reply counts -/

/-- The whole number that a value is. A flag counts as a number. -/
def Json.whole? : Json → Option Int
  | .int n => some n
  | .bool b => some (if b then 1 else 0)
  | _ => none

/-- A count can be priced: it is not beyond all doubles. -/
def HasPrice (n : Int) : Prop :=
  (Decimal.floatOfInt n).isInf = false

namespace Payload

/-- What a payload counts under a key. Nothing is counted where its usage or the key is missing. -/
inductive Counts (payload : List (String × Json)) (key : String) : Int → Prop
  | noUsage (husage : payload.lookup "usage" = none) : Counts payload key 0
  | noCount {usage : List (String × Json)} (husage : payload.lookup "usage" = some (.obj usage))
      (hkey : usage.lookup key = none) : Counts payload key 0
  | given {usage : List (String × Json)} {j : Json} {n : Int}
      (husage : payload.lookup "usage" = some (.obj usage)) (hkey : usage.lookup key = some j)
      (hwhole : j.whole? = some n) : Counts payload key n

/-- What a payload says: the text of its first part, and what it counts. -/
structure Says (payload : List (String × Json)) (text : Json) (input output : Int) : Prop where
  text : ∃ part rest, payload.lookup "content" = some (.arr (.obj part :: rest)) ∧
    part.lookup "text" = some text
  input : Counts payload "input_tokens" input
  output : Counts payload "output_tokens" output

/-! ### Reading a payload -/

theorem namedPart_eq_ok_iff {key : String} {j v : Json} :
    namedPart key j = .ok v ↔ ∃ entries, j = .obj entries ∧ entries.lookup key = some v := by
  cases j with
  | obj entries =>
      unfold namedPart Json.get?
      cases hkey : entries.lookup key <;> simp [hkey]
  | _ =>
      constructor
      · rintro ⟨⟩
      · rintro ⟨_, ⟨⟩, _⟩

theorem partOr_eq_ok_iff {key : String} {j other v : Json} :
    partOr j key other = .ok v ↔
      ∃ entries, j = .obj entries ∧ (entries.lookup key).getD other = v := by
  cases j with
  | obj entries => simp [partOr, Json.get?]
  | _ =>
      constructor
      · rintro ⟨⟩
      · rintro ⟨_, ⟨⟩, _⟩

/-- The first part has a name only in a list: the first part of a text is a text. -/
theorem firstPart_eq_ok_obj_iff {j : Json} {part : List (String × Json)} :
    firstPart j = .ok (.obj part) ↔ ∃ rest, j = .arr (.obj part :: rest) := by
  cases j with
  | arr items => cases items <;> simp [firstPart]
  | str s =>
      unfold firstPart
      cases htext : s.toList <;> simp [htext]
  | _ =>
      constructor
      · rintro ⟨⟩
      · rintro ⟨_, ⟨⟩⟩

/-- The text of the first part of what stands under `content`. -/
theorem text_eq_ok_iff {payload : List (String × Json)} {text : Json} :
    (do namedPart "text" (← firstPart (← namedPart "content" (.obj payload)))) = .ok text ↔
      ∃ part rest, payload.lookup "content" = some (.arr (.obj part :: rest)) ∧
        part.lookup "text" = some text := by
  simp only [bind_eq_ok_iff, namedPart_eq_ok_iff]
  constructor
  · rintro ⟨content, ⟨_, ⟨⟩, hcontent⟩, _, hfirst, part, rfl, htext⟩
    obtain ⟨rest, rfl⟩ := firstPart_eq_ok_obj_iff.1 hfirst
    exact ⟨part, rest, hcontent, htext⟩
  · rintro ⟨part, rest, hcontent, htext⟩
    exact ⟨_, ⟨payload, rfl, hcontent⟩, _, rfl, part, rfl, htext⟩

/-- A count of the usage, where the usage and the count are empty by default. -/
theorem counts_iff {payload : List (String × Json)} {key : String} {n : Int} :
    Counts payload key n ↔
      ∃ j, partOr ((payload.lookup "usage").getD (.obj [])) key (.int 0) = .ok j ∧
        j.whole? = some n := by
  simp only [partOr_eq_ok_iff]
  constructor
  · intro h
    cases h with
    | noUsage husage => exact ⟨_, ⟨[], by simp [husage], rfl⟩, rfl⟩
    | noCount husage hkey => exact ⟨_, ⟨_, by rw [husage]; rfl, rfl⟩, by rw [hkey]; rfl⟩
    | given husage hkey hwhole =>
        exact ⟨_, ⟨_, by rw [husage]; rfl, rfl⟩, by rw [hkey]; exact hwhole⟩
  · rintro ⟨j, ⟨usage, husage, rfl⟩, hwhole⟩
    -- the count that is read stands in the payload unless there is no usage, or none of this name
    cases hgiven : payload.lookup "usage" with
    | none =>
        rw [hgiven] at husage
        cases husage
        cases hwhole
        exact .noUsage hgiven
    | some found =>
        rw [hgiven] at husage
        cases husage
        cases hkey : usage.lookup key with
        | none =>
            rw [hkey] at hwhole
            cases hwhole
            exact .noCount hgiven hkey
        | some j =>
            rw [hkey] at hwhole
            exact .given hgiven hkey hwhole

/-- A reply is read as what its payload says. -/
theorem exists_read_iff {reply : String} {text : Json} {input output : Int} :
    (∃ p, read reply = .ok p ∧ p.text = text ∧ p.input.whole? = some input ∧
        p.output.whole? = some output) ↔
      ∃ payload, Json.read reply = .ok (.obj payload) ∧ Says payload text input output := by
  constructor
  · rintro ⟨p, hread, rfl, hinput, houtput⟩
    -- the text is read before the counts are
    obtain ⟨j, hj, hread⟩ := bind_eq_ok_iff.1 hread
    obtain ⟨usage, husage, hread⟩ := bind_eq_ok_iff.1 hread
    obtain ⟨payload, rfl, rfl⟩ := partOr_eq_ok_iff.1 husage
    obtain ⟨content, hcontent, hread⟩ := bind_eq_ok_iff.1 hread
    obtain ⟨first, hfirst, hread⟩ := bind_eq_ok_iff.1 hread
    obtain ⟨text, htext, hread⟩ := bind_eq_ok_iff.1 hread
    obtain ⟨i, hi, hread⟩ := bind_eq_ok_iff.1 hread
    obtain ⟨o, ho, hread⟩ := bind_eq_ok_iff.1 hread
    cases hread
    refine ⟨payload, mapError_eq_ok_iff.1 hj, ?_, counts_iff.2 ⟨i, hi, hinput⟩,
      counts_iff.2 ⟨o, ho, houtput⟩⟩
    exact text_eq_ok_iff.1
      (bind_eq_ok_iff.2 ⟨content, hcontent, bind_eq_ok_iff.2 ⟨first, hfirst, htext⟩⟩)
  · rintro ⟨payload, hj, htext, hinput, houtput⟩
    obtain ⟨i, hi, hinput⟩ := counts_iff.1 hinput
    obtain ⟨o, ho, houtput⟩ := counts_iff.1 houtput
    obtain ⟨content, hcontent, htext⟩ := bind_eq_ok_iff.1 (text_eq_ok_iff.2 htext)
    obtain ⟨first, hfirst, htext⟩ := bind_eq_ok_iff.1 htext
    refine ⟨⟨text, i, o⟩, ?_, rfl, hinput, houtput⟩
    unfold read
    exact bind_eq_ok_iff.2 ⟨_, mapError_eq_ok_iff.2 hj, bind_eq_ok_iff.2 ⟨_, rfl,
      bind_eq_ok_iff.2 ⟨_, hcontent, bind_eq_ok_iff.2 ⟨_, hfirst, bind_eq_ok_iff.2 ⟨_, htext,
        bind_eq_ok_iff.2 ⟨_, hi, bind_eq_ok_iff.2 ⟨_, ho, rfl⟩⟩⟩⟩⟩⟩⟩

/-! ### Counting -/

theorem count_of_whole {j : Json} {n : Int} (h : j.whole? = some n) :
    count j = if (Decimal.floatOfInt n).isInf then .error .tooLarge else .ok n := by
  cases j with
  | int m | bool b =>
      cases h
      simp [count, bind, Except.bind, pure, Except.pure, throw, throwThe, MonadExceptOf.throw]
  | _ => cases h

theorem exists_count_of_not_whole {j : Json} (h : j.whole? = none) : ∃ e, count j = .error e := by
  cases j with
  | int m | bool b => cases h
  | _ => exact ⟨_, rfl⟩

theorem count_eq_ok_iff {j : Json} {n : Int} :
    count j = .ok n ↔ j.whole? = some n ∧ HasPrice n := by
  cases hwhole : j.whole? with
  | none =>
      obtain ⟨e, he⟩ := exists_count_of_not_whole hwhole
      simp [he]
  | some m =>
      rw [count_of_whole hwhole, HasPrice]
      cases hinf : (Decimal.floatOfInt m).isInf with
      -- a whole number that no price can be told for is not counted
      | true =>
          simp only [if_true, reduceCtorEq, Option.some.injEq, false_iff, not_and]
          rintro rfl hprice
          exact Bool.noConfusion (hinf.symm.trans hprice)
      | false =>
          simp only [Bool.false_eq_true, if_false, Except.ok.injEq, Option.some.injEq]
          constructor
          · rintro rfl
            exact ⟨rfl, hinf⟩
          · exact And.left

theorem counts_eq_ok_iff {p : Payload} {input output : Int} :
    p.counts = .ok (input, output) ↔
      (p.input.whole? = some input ∧ HasPrice input) ∧
        p.output.whole? = some output ∧ HasPrice output := by
  unfold counts
  simp only [bind_eq_ok_iff, count_eq_ok_iff]
  constructor
  · rintro ⟨m, hm, n, hn, ⟨⟩⟩
    exact ⟨hm, hn⟩
  · rintro ⟨hm, hn⟩
    exact ⟨_, hm, _, hn, rfl⟩

end Payload

/-! ## What a service answers -/

/-- A service answers a request with a text, or with what stands for it, and with two counts. -/
inductive Service.Answers (r : Request) (text : Json) (input output : Int) : Service → Prop
  | payload {model body : String} {reply : Request → Except String String}
      {payload : List (String × Json)} (hreply : reply r = .ok body)
      (hbody : Json.read body = .ok (.obj payload)) (h : Payload.Says payload text input output) :
      Answers r text input output (.bedrock model reply)
  | message {model : String} {reply : Request → Except String Message} {m : Message}
      (hreply : reply r = .ok m) (htext : text = .str m.text) (hinput : input = m.input)
      (houtput : output = m.output) : Answers r text input output (.anthropic model reply)

theorem Service.answers_iff {service : Service} {r : Request} {text : Json} {input output : Int} :
    service.Answers r text input output ↔
      ∃ p, service.ask r = .ok p ∧ p.text = text ∧ p.input.whole? = some input ∧
        p.output.whole? = some output := by
  cases service with
  -- this service answers with a payload that is still to be read
  | bedrock model reply =>
      constructor
      · intro h
        cases h with
        | payload hreply hbody hsays =>
            obtain ⟨p, hp, hparts⟩ := Payload.exists_read_iff.2 ⟨_, hbody, hsays⟩
            exact ⟨p, bind_eq_ok_iff.2 ⟨_, mapError_eq_ok_iff.2 hreply, hp⟩, hparts⟩
      · rintro ⟨p, hask, hparts⟩
        obtain ⟨body, hreply, hp⟩ := bind_eq_ok_iff.1 hask
        obtain ⟨payload, hbody, hsays⟩ := Payload.exists_read_iff.1 ⟨p, hp, hparts⟩
        exact .payload (mapError_eq_ok_iff.1 hreply) hbody hsays
  -- this one answers with a message whose parts are told
  | anthropic model reply =>
      constructor
      · intro h
        cases h with
        | message hreply htext hinput houtput =>
            refine ⟨_, bind_eq_ok_iff.2 ⟨_, mapError_eq_ok_iff.2 hreply, rfl⟩, htext.symm, ?_, ?_⟩
            · rw [hinput]
              rfl
            · rw [houtput]
              rfl
      · rintro ⟨p, hask, htext, hinput, houtput⟩
        obtain ⟨m, hreply, hp⟩ := bind_eq_ok_iff.1 hask
        cases hp
        cases hinput
        cases houtput
        exact .message (mapError_eq_ok_iff.1 hreply) htext.symm rfl rfl

end RoleAudit
