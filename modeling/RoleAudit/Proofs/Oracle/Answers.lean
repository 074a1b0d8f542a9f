import RoleAudit.Proofs.First
import RoleAudit.Proofs.Oracle.Asked
import RoleAudit.Proofs.Oracle.Reply

/-!
# What any reply can say

A reply is not trusted. Whatever text it is, it gives the expected names values and nothing else:

- `Reply.Says`: a piece of a reply says a value of a name;
- `Reply.Means`: the expected name that a name means;
- `Reply.Gives`: a piece gives an expected name a value that is not taken for none;
- `lookup_addPair`, `lookup_readPairs`: what one piece adds, and so the value of a name after a
  whole reply: what the first piece gives that gives it anything;
- `Reply.Idle`, `Reply.Inserted`: pieces about nothing that is expected, and a reply with such
  pieces put in;
- `readPairs_contained`: the values stand in the reply, the first one counts, and neither idle pieces
  nor later answers change it.
-/

namespace RoleAudit

open RoleAudit.Text

/-! ## What a piece says -/

namespace Reply

/-- A piece says a value of a name: they stand around its first colon, among blanks and quotes. -/
def Says (piece name value : String) : Prop :=
  ∃ before after, piece.toList = before ++ ':' :: after ∧ ':' ∉ before ∧
    name = String.ofList (trimOf isReplyQuote (trim before)) ∧
    value = unquoted (String.ofList after)

/--
The expected name that a name means: the same name, or else the last expected name that differs from
it in case only.
-/
inductive Means (expected : List String) (name : String) : String → Prop
  | exact (h : name ∈ expected) : Means expected name name
  | folded {before after : List String} {key : String} (hother : name ∉ expected)
      (hkey : expected = before ++ key :: after) (hcase : lower key = lower name)
      (hlast : ∀ e ∈ after, lower e ≠ lower name) : Means expected name key

/-- A piece gives an expected name a value that is not taken for none. -/
def Gives (expected : List String) (piece key value : String) : Prop :=
  ∃ name, Says piece name value ∧ Means expected name key ∧ lower value ∉ emptyAnswers

end Reply

theorem pairParts?_eq_some_iff {piece name value : String} :
    pairParts? piece = some (name, value) ↔ Reply.Says piece name value := by
  unfold pairParts? Reply.Says unquoted
  rw [Option.map_eq_some_iff]
  constructor
  · rintro ⟨⟨before, after⟩, hcut, hparts⟩
    cases hparts
    obtain ⟨c, hpiece, hc, hbefore⟩ := cut?_eq_some_iff.1 hcut
    rw [beq_iff_eq.1 hc] at hpiece
    refine ⟨before, after, hpiece, fun hcolon => ?_, rfl, by rw [String.toList_ofList]⟩
    simpa using hbefore ':' hcolon
  · rintro ⟨before, after, hpiece, hbefore, rfl, rfl⟩
    refine ⟨(before, after), cut?_eq_some_iff.2 ⟨':', hpiece, by simp, fun b hb => ?_⟩, ?_⟩
    · exact beq_false_of_ne fun hcolon => hbefore (hcolon ▸ hb)
    · rw [String.toList_ofList]

theorem pairParts?_eq_none_iff {piece : String} :
    pairParts? piece = none ↔ ':' ∉ piece.toList := by
  unfold pairParts?
  rw [Option.map_eq_none_iff, cut?_eq_none_iff]
  constructor
  · intro h hcolon
    simpa using h ':' hcolon
  · intro h c hc
    exact beq_false_of_ne fun hcolon => h (hcolon ▸ hc)

theorem meantName?_eq_some_iff {expected : List String} {name key : String} :
    meantName? expected name = some key ↔ Reply.Means expected name key := by
  unfold meantName?
  by_cases hname : name ∈ expected
  · rw [if_pos (by simpa using hname)]
    constructor
    · rintro ⟨⟩
      exact .exact hname
    · intro h
      cases h with
      | exact _ => rfl
      | folded hother => exact absurd hname hother
  · rw [if_neg (by simpa using hname), List.find?_eq_some_iff_append]
    constructor
    · rintro ⟨hcase, after, before, hreverse, hlast⟩
      -- what stands before the name in the reversed list stands after it in the list
      have hexpected : expected = before.reverse ++ key :: after.reverse := by
        rw [← List.reverse_reverse expected, hreverse]
        simp
      refine .folded hname hexpected (by simpa using hcase) fun e he => ?_
      simpa using hlast e (List.mem_reverse.1 he)
    · intro h
      cases h with
      | exact h => exact absurd h hname
      | @folded before after _ _ hkey hcase hlast =>
          refine ⟨by simpa using hcase, after.reverse, before.reverse, by simp [hkey], ?_⟩
          intro e he
          simpa using hlast e (List.mem_reverse.1 he)

theorem meantName?_eq_none {expected : List String} {name : String}
    (h : ∀ e ∈ expected, lower e ≠ lower name) : meantName? expected name = none := by
  unfold meantName?
  have hother : name ∉ expected := fun hname => h name hname rfl
  rw [if_neg (by simpa using hother), List.find?_eq_none]
  intro e he
  simpa using h e (List.mem_reverse.1 he)

/-! ## One piece -/

/-- The value that a piece gives an expected name, if it gives one. -/
def answerFor? (expected : List String) (key piece : String) : Option String :=
  (pairParts? piece).bind fun (name, value) =>
    if meantName? expected name = some key ∧ isEmptyAnswer value = false then some value else none

theorem answerFor?_eq_some_iff {expected : List String} {key piece value : String} :
    answerFor? expected key piece = some value ↔ Reply.Gives expected piece key value := by
  unfold answerFor? Reply.Gives
  rw [Option.bind_eq_some_iff]
  constructor
  · rintro ⟨⟨name, said⟩, hparts, hvalue⟩
    obtain ⟨⟨hmeant, hempty⟩, hsaid⟩ := Option.ite_none_right_eq_some.1 hvalue
    cases hsaid
    refine ⟨name, pairParts?_eq_some_iff.1 hparts, meantName?_eq_some_iff.1 hmeant, ?_⟩
    simpa [isEmptyAnswer] using hempty
  · rintro ⟨name, hsays, hmeans, hvalue⟩
    refine ⟨(name, value), pairParts?_eq_some_iff.2 hsays, if_pos ⟨?_, ?_⟩⟩
    · exact meantName?_eq_some_iff.2 hmeans
    · simpa [isEmptyAnswer] using hvalue

/-- The empty text is taken for none. -/
theorem Reply.Gives.ne_empty {expected : List String} {piece key value : String}
    (h : Reply.Gives expected piece key value) : value ≠ "" := by
  rintro rfl
  obtain ⟨-, -, -, hvalue⟩ := h
  exact hvalue (by decide)

theorem lookup_keepFirst (known : List (String × String)) (name value key : String) :
    (keepFirst known name value).lookup key =
      (known.lookup key).map fun v => if key = name ∧ v = "" then value else v := by
  induction known with
  | nil => rfl
  | cons entry rest ih =>
      rcases entry with ⟨n, v⟩
      unfold keepFirst at ih ⊢
      by_cases hkey : key = n
      · subst hkey
        simp
      · rw [List.map_cons, List.lookup_cons, List.lookup_cons, beq_false_of_ne hkey]
        exact ih

/-- A name without a value gets what a piece gives it; a name with a value keeps it. -/
theorem lookup_addPair (expected : List String) (known : List (String × String))
    (piece key : String) :
    (addPair expected known piece).lookup key =
      (known.lookup key).map fun v =>
        if v = "" then (answerFor? expected key piece).getD "" else v := by
  -- a piece that gives the name nothing leaves it the value that it has
  have hstays : answerFor? expected key piece = none → known.lookup key =
      (known.lookup key).map fun v =>
        if v = "" then (answerFor? expected key piece).getD "" else v := by
    intro hnone
    rw [hnone]
    cases known.lookup key with
    | none => rfl
    | some v => by_cases hv : v = "" <;> simp [hv]
  unfold addPair
  cases hparts : pairParts? piece with
  | none => exact hstays (by simp [answerFor?, hparts])
  | some parts =>
      rcases parts with ⟨name, value⟩
      dsimp only
      cases hmeant : meantName? expected name with
      | none => exact hstays (by simp [answerFor?, hparts, hmeant])
      | some meant =>
          dsimp only
          cases hempty : isEmptyAnswer value with
          | true => exact hstays (by simp [answerFor?, hparts, hempty])
          | false =>
              by_cases hkey : key = meant
              · subst hkey
                simp [lookup_keepFirst, answerFor?, hparts, hmeant, hempty]
              · have hother : ¬ meant = key := fun h => hkey h.symm
                have hnone : answerFor? expected key piece = none := by
                  simp [answerFor?, hparts, hmeant, hother]
                rw [if_neg Bool.false_ne_true, lookup_keepFirst, ← hstays hnone]
                simp [hkey]

/-! ## A whole reply -/

/-- After some pieces a name has the value that it had, or the first one that is given to it. -/
theorem lookup_foldl_addPair (expected : List String) (pieces : List String)
    (known : List (String × String)) (key : String) :
    (pieces.foldl (addPair expected) known).lookup key =
      (known.lookup key).map fun v =>
        if v = "" then (pieces.findSome? (answerFor? expected key)).getD "" else v := by
  induction pieces generalizing known with
  | nil =>
      cases hknown : known.lookup key with
      | none => simp [hknown]
      | some v => by_cases hv : v = "" <;> simp [hknown, hv]
  | cons piece rest ih =>
      rw [List.foldl_cons, ih, lookup_addPair, Option.map_map, List.findSome?_cons]
      congr 1
      funext v
      by_cases hv : v = ""
      · cases hanswer : answerFor? expected key piece with
        | none => simp [hv]
        | some value => simp [hv, (answerFor?_eq_some_iff.1 hanswer).ne_empty]
      · simp [hv]

/-- The value of an expected name is the first one that a piece gives it, or empty. -/
theorem lookup_readPairs (reply : String) {expected : List String} {key : String}
    (h : key ∈ expected) :
    (readPairs reply expected).lookup key =
      some (((splitAt ',' reply).findSome? (answerFor? expected key)).getD "") := by
  have hstart : ((distinct expected).map fun n => (n, "")).lookup key = some "" := by
    have hmem : key ∈ distinct expected := (mem_distinct expected key).2 h
    have hkeys : (((distinct expected).map fun n => (n, "")).map (·.1)).Nodup := by
      rw [List.map_map]
      simpa [Function.comp_def] using nodup_distinct expected
    exact (lookup_eq_some_iff_mem hkeys).2 (List.mem_map.2 ⟨key, hmem, rfl⟩)
  unfold readPairs
  rw [lookup_foldl_addPair, hstart]
  simp

theorem nodup_keys_readPairs (reply : String) (expected : List String) :
    ((readPairs reply expected).map (·.1)).Nodup := by
  rw [keys_readPairs]
  exact nodup_distinct expected

theorem mem_readPairs_iff {reply : String} {expected : List String} {key value : String} :
    (key, value) ∈ readPairs reply expected ↔ key ∈ expected ∧
      value = ((splitAt ',' reply).findSome? (answerFor? expected key)).getD "" := by
  constructor
  · intro h
    have hkey : key ∈ expected := by
      rw [← mem_distinct, ← keys_readPairs reply]
      exact List.mem_map_of_mem h
    have hlookup := (lookup_eq_some_iff_mem (nodup_keys_readPairs reply expected)).2 h
    rw [lookup_readPairs reply hkey] at hlookup
    exact ⟨hkey, (Option.some.inj hlookup).symm⟩
  · rintro ⟨hkey, rfl⟩
    exact (lookup_eq_some_iff_mem (nodup_keys_readPairs reply expected)).1
      (lookup_readPairs reply hkey)

/-! ## Values stand in the reply -/

/-- A value that stands in a reply, between commas, without blanks around it. -/
structure Reply.Quotes (reply value : String) : Prop where
  stands : value.toList <:+: reply.toList
  comma : ',' ∉ value.toList
  bare : BareOf isBlank value.toList
  nonempty : value ≠ ""
  meant : lower value ∉ emptyAnswers

/-- What a piece gives stands in it. -/
theorem Reply.Gives.quotes {expected : List String} {reply piece key value : String}
    (h : Reply.Gives expected piece key value) (hpiece : piece ∈ splitAt ',' reply) :
    Reply.Quotes reply value := by
  have hempty := h.ne_empty
  obtain ⟨name, ⟨before, after, htext, -, -, rfl⟩, -, hmeant⟩ := h
  obtain ⟨cs, hcs, rfl⟩ := List.mem_map.1 hpiece
  rw [String.toList_ofList] at htext
  have hvalue : (unquoted (String.ofList after)).toList =
      trim (trimOf isReplyQuote (trim after)) := by
    rw [unquoted, String.toList_ofList, String.toList_ofList]
  -- three times something is cut off at the ends of what follows the colon
  have hwithin : (unquoted (String.ofList after)).toList <:+: cs := by
    rw [hvalue, htext]
    exact (infix_trimOf isBlank _).trans ((infix_trimOf isReplyQuote _).trans
      ((infix_trimOf isBlank after).trans ((List.suffix_cons ':' after).isInfix.trans
        (List.suffix_append before _).isInfix)))
  refine ⟨hwithin.trans (infix_of_mem_pieces hcs), fun hcomma => ?_, ?_, hempty, hmeant⟩
  · exact not_mem_of_mem_pieces hcs ',' (hwithin.subset hcomma) (by rfl)
  · rw [hvalue]
    exact bareOf_trimOf isBlank _

/-! ## Idle pieces -/

namespace Reply

/-- A piece that says nothing, or of a name that no expected name is like even in another case. -/
def Idle (expected : List String) (piece : String) : Prop :=
  ':' ∉ piece.toList ∨
    ∃ name value, Says piece name value ∧ ∀ e ∈ expected, lower e ≠ lower name

/-- The pieces of a reply with further pieces of a kind put in, wherever that is. -/
inductive Inserted (kind : String → Prop) : List String → List String → Prop
  | nil : Inserted kind [] []
  | keep (piece : String) {pieces more : List String} (h : Inserted kind pieces more) :
      Inserted kind (piece :: pieces) (piece :: more)
  | insert {piece : String} {pieces more : List String} (hpiece : kind piece)
      (h : Inserted kind pieces more) : Inserted kind pieces (piece :: more)

theorem Inserted.refl {kind : String → Prop} (pieces : List String) :
    Inserted kind pieces pieces := by
  induction pieces with
  | nil => exact .nil
  | cons piece rest ih => exact .keep piece ih

/-- An idle piece adds nothing. -/
theorem Idle.addPair_eq {expected : List String} {piece : String} (h : Idle expected piece)
    (known : List (String × String)) : addPair expected known piece = known := by
  unfold addPair
  rcases h with hcolon | ⟨name, value, hsays, hother⟩
  · rw [pairParts?_eq_none_iff.2 hcolon]
  · rw [pairParts?_eq_some_iff.2 hsays]
    dsimp only
    rw [meantName?_eq_none hother]

theorem Inserted.foldl_eq {expected : List String} {pieces more : List String}
    (h : Inserted (Idle expected) pieces more) (known : List (String × String)) :
    more.foldl (addPair expected) known = pieces.foldl (addPair expected) known := by
  induction h generalizing known with
  | nil => rfl
  | keep piece _ ih => exact ih (addPair expected known piece)
  | insert hpiece _ ih =>
      rw [List.foldl_cons, hpiece.addPair_eq]
      exact ih known

end Reply

/-! ## Any reply -/

/--
Whatever text a reply is and whichever names are expected, exactly these have a value, each one.
A value is empty if no piece of the reply gives the name one; else it stands in the reply, without
commas and blanks around it and not as one of the words for none, and it is what the first piece
gives that gives the name anything. Further pieces that say nothing, or of other names only, change
nothing wherever they are put in, and whatever is added at the end changes no value that is there.
-/
theorem readPairs_contained (reply : String) (expected : List String) :
    (((readPairs reply expected).map (·.1)).Nodup ∧
        ∀ name, name ∈ (readPairs reply expected).map (·.1) ↔ name ∈ expected) ∧
      (∀ name value, (name, value) ∈ readPairs reply expected →
        (value = "" ∧ ∀ piece ∈ splitAt ',' reply, ∀ v, ¬ Reply.Gives expected piece name v) ∨
          Reply.Quotes reply value ∧
            ∃ piece, FirstOf (fun piece => ∃ v, Reply.Gives expected piece name v) piece
              (splitAt ',' reply) ∧ Reply.Gives expected piece name value) ∧
      (∀ more, Reply.Inserted (Reply.Idle expected) (splitAt ',' reply) (splitAt ',' more) →
        readPairs more expected = readPairs reply expected) ∧
      ∀ name value later, (name, value) ∈ readPairs reply expected → value ≠ "" →
        (name, value) ∈ readPairs (reply ++ "," ++ later) expected := by
  refine ⟨⟨nodup_keys_readPairs reply expected, fun name => ?_⟩, fun name value hentry => ?_,
    fun more hmore => hmore.foldl_eq _, fun name value later hentry hvalue => ?_⟩
  · rw [keys_readPairs, mem_distinct]
  · obtain ⟨-, hvalue⟩ := mem_readPairs_iff.1 hentry
    cases hfound : (splitAt ',' reply).findSome? (answerFor? expected name) with
    | none =>
        left
        rw [hfound] at hvalue
        refine ⟨hvalue, fun piece hpiece v hgives => ?_⟩
        have hnone := List.findSome?_eq_none_iff.1 hfound piece hpiece
        rw [answerFor?_eq_some_iff.2 hgives] at hnone
        cases hnone
    | some v =>
        right
        have hsame : value = v := by rw [hvalue, hfound, Option.getD_some]
        subst hsame
        obtain ⟨piece, hfirst, hanswer⟩ := findSome?_eq_some_iff_firstOf.1 hfound
        simp only [answerFor?_eq_some_iff] at hfirst
        have hgives := answerFor?_eq_some_iff.1 hanswer
        exact ⟨hgives.quotes hfirst.mem, piece, hfirst, hgives⟩
  · obtain ⟨hname, hfirst⟩ := mem_readPairs_iff.1 hentry
    refine mem_readPairs_iff.2 ⟨hname, ?_⟩
    rw [splitAt_append (by rfl), List.findSome?_append]
    cases hfound : (splitAt ',' reply).findSome? (answerFor? expected name) with
    | none =>
        rw [hfound] at hfirst
        exact absurd hfirst hvalue
    | some v =>
        rw [hfirst, hfound]
        rfl

/-- Pieces of a reply: chatter, a word for none, another case with quotes, and a second answer. -/
def loudPieces : List String :=
  ["Sure!", " APolicy: none", "apolicy: `x.owner` ", "BPOLICY: 'b'", " APolicy: later"]

theorem readPairs_contained_loudPieces :
    let expected := ["APolicy", "aPolicy", "BPolicy"]
    let reply := joinWith "," loudPieces
    let noisier := joinWith "," (" Zed: z" :: loudPieces)
    readPairs reply expected = [("APolicy", "later"), ("aPolicy", "x.owner"), ("BPolicy", "b")] ∧
      Reply.Quotes reply "x.owner" ∧ readPairs noisier expected = readPairs reply expected ∧
      ("BPolicy", "b") ∈ readPairs (reply ++ "," ++ "BPolicy: c") expected := by
  intro expected reply noisier
  have hanswers : readPairs reply expected =
      [("APolicy", "later"), ("aPolicy", "x.owner"), ("BPolicy", "b")] := by decide +kernel
  obtain ⟨-, hvalues, hquiet, hlater⟩ := readPairs_contained reply expected
  have howner : ("aPolicy", "x.owner") ∈ readPairs reply expected := by simp [hanswers]
  have hb : ("BPolicy", "b") ∈ readPairs reply expected := by simp [hanswers]
  have hquotes := (hvalues _ _ howner).resolve_left fun h => absurd h.1 (by decide)
  -- another name is none of the expected ones in any case
  have hidle : Reply.Idle expected " Zed: z" :=
    .inr ⟨"Zed", "z", ⟨" Zed".toList, " z".toList, by decide, by decide, by decide, by decide⟩,
      by decide +kernel⟩
  have hcommas : ∀ piece ∈ " Zed: z" :: loudPieces, ',' ∉ piece.toList := by decide
  have hinserted : Reply.Inserted (Reply.Idle expected) (splitAt ',' reply)
      (splitAt ',' noisier) := by
    have hpieces : splitAt ',' reply = loudPieces :=
      splitAt_joinWith (by rfl) (by decide) (List.forall_mem_cons.1 hcommas).2
    rw [hpieces, splitAt_joinWith (by rfl) (List.cons_ne_nil _ _) hcommas]
    exact .insert hidle (.refl loudPieces)
  exact ⟨hanswers, hquotes.1, hquiet noisier hinserted, hlater _ _ _ hb (by decide)⟩

end RoleAudit
