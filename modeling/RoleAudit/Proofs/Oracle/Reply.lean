import RoleAudit.Oracle.Reply
import RoleAudit.Proofs.Text.Distinct
import RoleAudit.Proofs.Text.Pieces

/-!
# What a reply is read as

A reply in the form that is asked for, `name: value` joined by commas, is cut, cleaned, cut again and
freed of blanks and quotes. This is what arrives:

- `formReply`: a reply in the form that is asked for;
- `IsWritten`, `IsWordName`: names that a reply is not cut or marked at, and names that it can give;
- `readAs`: the value that a name has after reading;
- `readPairs_formReply`: reading a reply in the right form, entry by entry;
- `unbroken_of_mem_readPairs`: no value holds a comma or a line feed, whatever the reply.
-/

namespace RoleAudit

open RoleAudit.Text

/-- A reply that gives values for names in the form that is asked for. -/
def formReply (answers : List (String × String)) : String :=
  joinWith "," (answers.map fun (name, value) => name ++ ": " ++ value)

/-- Characters at which a reply is cut, or that mark an item of a list. -/
def replyMarks : List Char := [',', ':', '`', '.', ')', '-', '*', '•']

/-- A name without blanks and without the marks of a reply, as every name of a class is. -/
def IsWritten (name : String) : Prop :=
  ∀ c ∈ name.toList, isBlank c = false ∧ c ∉ replyMarks

/-- A name of letters, digits and underscores. -/
def IsWordName (name : String) : Prop :=
  name ≠ "" ∧ ∀ c ∈ name.toList, isWord c = true

instance : DecidablePred IsWritten := fun name =>
  List.decidableBAll (fun c => isBlank c = false ∧ c ∉ replyMarks) name.toList

instance : DecidablePred IsWordName := fun name =>
  have := List.decidableBAll (fun c => isWord c = true) name.toList
  inferInstanceAs (Decidable (name ≠ "" ∧ ∀ c ∈ name.toList, isWord c = true))

/-- A text without commas and line feeds. -/
def Unbroken (s : String) : Prop :=
  ∀ c ∈ s.toList, c ≠ ',' ∧ c ≠ '\n'

instance : DecidablePred Unbroken := fun s =>
  List.decidableBAll (fun c => c ≠ ',' ∧ c ≠ '\n') s.toList

/-- A value without the blanks and the quotes around it. -/
def unquoted (value : String) : String :=
  String.ofList (trim (trimOf isReplyQuote (trim value.toList)))

/-- The value that a name has after reading. -/
def readAs (name value : String) : String :=
  if IsWordName name ∧ isEmptyAnswer (unquoted value) = false then unquoted value else ""

/-! ## One piece -/

/-- A character that is no mark of a list item, and that ends a number without making it one. -/
structure EndsNumber (d : Char) : Prop where
  bullet : bullets.contains d = false
  decimal : isDecimal d = false
  dot : d ≠ '.'
  paren : d ≠ ')'

theorem afterTick_cons_of_ne {c : Char} (hc : c ≠ '`') (rest : List Char) :
    afterTick (c :: rest) = c :: rest := by
  unfold afterTick
  split
  · rename_i heq
    exact absurd (List.cons.inj heq).1 hc
  · rfl

section Piece

variable {name rest : List Char} (h : ∀ c ∈ name, isBlank c = false ∧ c ∉ replyMarks)

include h

theorem dropWhile_isBlank_piece :
    (name ++ ':' :: rest).dropWhile isBlank = name ++ ':' :: rest := by
  cases name with
  | nil => rfl
  | cons c others =>
      have hc : isBlank c = false := (h c List.mem_cons_self).1
      simp [hc]

theorem afterTick_piece : afterTick (name ++ ':' :: rest) = name ++ ':' :: rest := by
  cases name with
  | nil => rfl
  | cons c others =>
      refine afterTick_cons_of_ne ?_ _
      rintro rfl
      exact (h '`' List.mem_cons_self).2 (by decide)

/-- After the digits of a name stands one of its characters, or what follows it. -/
theorem exists_dropWhile_isDecimal_piece {d : Char} (hd : EndsNumber d) :
    ∃ e after, (name ++ d :: rest).dropWhile isDecimal = e :: after ∧ e ≠ '.' ∧ e ≠ ')' := by
  induction name with
  | nil => exact ⟨d, rest, by simp [hd.decimal], hd.dot, hd.paren⟩
  | cons c others ih =>
      by_cases hc : isDecimal c = true
      · rcases ih fun b hb => h b (List.mem_cons_of_mem c hb) with ⟨e, after, hdrop, he⟩
        exact ⟨e, after, by simpa [hc] using hdrop, he⟩
      · refine ⟨c, others ++ d :: rest, by simp [hc], ?_, ?_⟩
        · rintro rfl
          exact (h '.' List.mem_cons_self).2 (by decide)
        · rintro rfl
          exact (h ')' List.mem_cons_self).2 (by decide)

/-- A name begins with no mark of a list item, whatever follows it. -/
theorem afterBullet_piece {d : Char} (hd : EndsNumber d) :
    afterBullet (name ++ d :: rest) = name ++ d :: rest := by
  rcases @exists_dropWhile_isDecimal_piece name rest h d hd with ⟨e, after, hdrop, hdot, hparen⟩
  cases hpiece : name ++ d :: rest with
  | nil => rfl
  | cons c others =>
      -- the first character is one of the name, or what follows an empty name
      have hbullet : bullets.contains c = false := by
        cases name with
        | nil =>
            rw [← (List.cons.inj hpiece).1]
            exact hd.bullet
        | cons b bs =>
            have hcb : b = c := (List.cons.inj hpiece).1
            have hmark := (h b List.mem_cons_self).2
            rw [hcb] at hmark
            simp only [replyMarks, List.mem_cons, not_or] at hmark
            simp [bullets, hmark]
      rw [hpiece] at hdrop
      unfold afterBullet
      dsimp only
      rw [hbullet, hdrop]
      simp [hdot, hparen]

omit h in
/-- The word of a piece ends at its colon, if the whole name is a word. -/
theorem span_isWord_piece (rest : List Char) (hword : ∀ c ∈ name, isWord c = true) :
    (name ++ ':' :: rest).takeWhile isWord = name ∧
      (name ++ ':' :: rest).dropWhile isWord = ':' :: rest := by
  constructor
  · rw [List.takeWhile_append_of_pos hword]
    have hcolon : (':' :: rest).takeWhile isWord = [] := rfl
    rw [hcolon, List.append_nil]
  · rw [List.dropWhile_append_of_pos hword]
    rfl

/-- Else a character stands between the word and the colon. -/
theorem exists_dropWhile_isWord_piece (rest : List Char)
    (hword : ¬ ∀ c ∈ name, isWord c = true) :
    ∃ b after, (name ++ ':' :: rest).dropWhile isWord = b :: after ++ ':' :: rest ∧ b ≠ ':' ∧
      ∀ c ∈ b :: after, isBlank c = false ∧ c ∉ replyMarks := by
  have hnonempty : name.dropWhile isWord ≠ [] := fun hnil => hword (by simpa using hnil)
  rcases List.exists_cons_of_ne_nil hnonempty with ⟨b, after, hb⟩
  have hmem : ∀ c ∈ name.dropWhile isWord, c ∈ name :=
    fun c hc => (List.dropWhile_sublist isWord).subset hc
  have hafter : ∀ c ∈ b :: after, isBlank c = false ∧ c ∉ replyMarks :=
    fun c hc => h c (hmem c (hb ▸ hc))
  refine ⟨b, after, ?_, ?_, hafter⟩
  · rw [List.dropWhile_append, hb]
    rfl
  · rintro rfl
    exact (hafter ':' List.mem_cons_self).2 (by decide)

/-- A piece gives a name if this is a word, and then its value without blanks. -/
theorem pieceParts?_piece :
    pieceParts? (name ++ ':' :: rest) =
      if !name.isEmpty && name.all isWord then some (name, trim rest) else none := by
  unfold pieceParts?
  rw [dropWhile_isBlank_piece h, afterBullet_piece h ⟨by decide, by decide, by decide, by decide⟩,
    dropWhile_isBlank_piece h, afterTick_piece h]
  dsimp only
  by_cases hword : ∀ c ∈ name, isWord c = true
  · have hspan := span_isWord_piece rest hword
    have hcolon : (afterTick (':' :: rest)).dropWhile isBlank = ':' :: rest := rfl
    rw [hspan.1, hspan.2, hcolon]
    cases name with
    | nil => rfl
    | cons c others =>
        have hall : (!(c :: others).isEmpty && (c :: others).all isWord) = true := by
          simpa using hword
        rw [if_pos hall]
        rfl
  · -- the character after the word is no colon, so the piece is none
    rcases exists_dropWhile_isWord_piece h rest hword with
      ⟨b, after, hdrop, hcolon, hafter⟩
    have hnot : ¬ (!name.isEmpty && name.all isWord) = true :=
      fun hall => hword (List.all_eq_true.1 (Bool.and_eq_true_iff.1 hall).2)
    rw [hdrop, afterTick_piece hafter, dropWhile_isBlank_piece hafter, if_neg hnot]
    split
    · rfl
    · rename_i heq
      exact absurd (List.cons.inj heq).1 hcolon
    · rfl

end Piece

/-- A piece in the right form gives a pair with the value trimmed, if its name is a word. -/
theorem cleanPiece?_form {name : String} (value : String) (h : IsWritten name) :
    cleanPiece? (name ++ ": " ++ value).toList =
      if IsWordName name then some (name ++ ": " ++ strip value) else none := by
  have hpiece : (name ++ ": " ++ value).toList = name.toList ++ ':' :: ' ' :: value.toList := by
    simp
  have htrim : trim (' ' :: value.toList) = trim value.toList := rfl
  have hword : (!name.toList.isEmpty && name.toList.all isWord) = true ↔ IsWordName name := by
    simp [IsWordName]
  unfold cleanPiece?
  rw [hpiece, pieceParts?_piece h, htrim]
  by_cases hname : IsWordName name
  · rw [if_pos hname, if_pos (hword.2 hname), Option.map_some]
    simp [← String.toList_inj]
  · rw [if_neg hname, if_neg (mt hword.1 hname)]
    rfl

/-! ## One pair -/

/-- A word has no quotes around it. -/
theorem isReplyQuote_eq_false_of_isWord {c : Char} (h : isWord c = true) :
    isReplyQuote c = false := by
  have hticks : (['`', '"', '\''].all fun q => !isWord q) = true := by decide
  cases hquote : isReplyQuote c with
  | false => rfl
  | true =>
      have hmem : c ∈ ['`', '"', '\''] := by simpa [isReplyQuote, or_assoc] using hquote
      have hnone := List.all_eq_true.1 hticks c hmem
      simp [h] at hnone

theorem bareOf_of_forall {p : Char → Bool} {cs : List Char} (h : ∀ c ∈ cs, p c = false) :
    BareOf p cs :=
  ⟨fun c hc => h c (List.mem_of_mem_head? hc), fun c hc => h c (List.mem_of_getLast? hc)⟩

theorem pairParts?_form {name : String} (value : String) (hwritten : IsWritten name)
    (hword : IsWordName name) :
    pairParts? (name ++ ": " ++ strip value) = some (name, unquoted value) := by
  have hpair : (name ++ ": " ++ strip value).toList =
      name.toList ++ ':' :: ' ' :: trim value.toList := by
    simp
  have hcolon : ∀ c ∈ name.toList, (c == ':') = false := by
    intro c hc
    apply beq_false_of_ne
    rintro rfl
    exact (hwritten ':' hc).2 (by decide)
  have hname : trimOf isReplyQuote (trim name.toList) = name.toList := by
    have hblanks : trim name.toList = name.toList :=
      trimOf_eq_self_iff.2 (bareOf_of_forall fun c hc => (hwritten c hc).1)
    rw [hblanks]
    exact trimOf_eq_self_iff.2
      (bareOf_of_forall fun c hc => isReplyQuote_eq_false_of_isWord (hword.2 c hc))
  have hvalue : trim (' ' :: trim value.toList) = trim value.toList :=
    trimOf_trimOf isBlank value.toList
  have hcut : cut? (· == ':') (name.toList ++ ':' :: ' ' :: trim value.toList) =
      some (name.toList, ' ' :: trim value.toList) :=
    cut?_eq_some_iff.2 ⟨':', rfl, beq_self_eq_true ':', hcolon⟩
  -- the first colon stands behind the name, from which nothing is trimmed
  unfold pairParts?
  rw [hpair, hcut, Option.map_some]
  dsimp only
  rw [hname, hvalue, String.ofList_toList]
  rfl

theorem keepFirst_empty (known : List (String × String)) (name : String) :
    keepFirst known name "" = known := by
  unfold keepFirst
  conv_rhs => rw [← List.map_id known]
  apply List.map_congr_left
  rintro ⟨n, v⟩ -
  by_cases hv : v = "" <;> simp [hv]

/-- A pair gives its name what it is read as, unless it has a value already. -/
theorem addPair_form {expected : List String} (known : List (String × String)) {name : String}
    (value : String) (hwritten : IsWritten name) (hword : IsWordName name)
    (hexpected : name ∈ expected) :
    addPair expected known (name ++ ": " ++ strip value) =
      keepFirst known name (readAs name value) := by
  have hmeant : meantName? expected name = some name := by
    simp [meantName?, hexpected]
  unfold addPair readAs
  rw [pairParts?_form value hwritten hword]
  dsimp only
  rw [hmeant]
  dsimp only
  cases hempty : isEmptyAnswer (unquoted value) with
  | true => simp [keepFirst_empty]
  | false => simp [hword]

/-! ## A whole reply -/

theorem keepFirst_of_not_mem {known : List (String × String)} {name : String} (value : String)
    (h : name ∉ known.map (·.1)) : keepFirst known name value = known := by
  unfold keepFirst
  conv_rhs => rw [← List.map_id known]
  apply List.map_congr_left
  rintro ⟨n, v⟩ hn
  have hne : n ≠ name := by
    rintro rfl
    exact h (List.mem_map.2 ⟨(n, v), hn, rfl⟩)
  simp [hne]

/-- Names that get their values one after the other end with all of them. -/
theorem foldl_keepFirst (value : String × String → String) {answers : List (String × String)}
    (hdistinct : (answers.map (·.1)).Nodup) (done : List (String × String))
    (hdone : ∀ n ∈ answers.map (·.1), n ∉ done.map (·.1)) :
    answers.foldl (fun known entry => keepFirst known entry.1 (value entry))
        (done ++ answers.map fun entry => (entry.1, "")) =
      done ++ answers.map fun entry => (entry.1, value entry) := by
  induction answers generalizing done with
  | nil => rfl
  | cons entry rest ih =>
      have hentry : entry.1 ∉ rest.map (·.1) := (List.nodup_cons.1 hdistinct).1
      have hrest : (rest.map (·.1)).Nodup := (List.nodup_cons.1 hdistinct).2
      -- only the entry of this name gets a value: those before and after have other names
      have hfirst : keepFirst (done ++ (entry.1, "") :: rest.map fun e => (e.1, "")) entry.1
          (value entry) =
          (done ++ [(entry.1, value entry)]) ++ rest.map fun e => (e.1, "") := by
        have hbefore := keepFirst_of_not_mem (value entry) (hdone entry.1 List.mem_cons_self)
        have hafter : keepFirst (rest.map fun e => (e.1, "")) entry.1 (value entry) =
            rest.map fun e => (e.1, "") := by
          apply keepFirst_of_not_mem
          rwa [List.map_map]
        unfold keepFirst at hbefore hafter ⊢
        rw [List.map_append, List.map_cons, hbefore, hafter]
        simp
      rw [List.foldl_cons, List.map_cons, hfirst, ih hrest]
      · simp
      · intro n hn hmem
        rw [List.map_append, List.mem_append] at hmem
        rcases hmem with hmem | hmem
        · exact hdone n (List.mem_cons_of_mem _ hn) hmem
        · have heq : n = entry.1 := by simpa using hmem
          exact hentry (heq ▸ hn)

theorem IsWritten.unbroken {name : String} (h : IsWritten name) : Unbroken name := by
  intro c hc
  constructor
  · rintro rfl
    exact (h ',' hc).2 (by decide)
  · rintro rfl
    exact absurd (h '\n' hc).1 (by decide)

theorem Unbroken.pair {name value : String} (hname : Unbroken name) (hvalue : Unbroken value) :
    Unbroken (name ++ ": " ++ value) := by
  intro c hc
  have hparts : c ∈ name.toList ∨ (c = ':' ∨ c = ' ') ∨ c ∈ value.toList := by
    simpa [or_assoc] using hc
  rcases hparts with hc | (rfl | rfl) | hc
  · exact hname c hc
  · decide
  · decide
  · exact hvalue c hc

/-- What holds no comma and no line feed holds none after some of it is dropped. -/
theorem Unbroken.of_sublist {s : String} (h : Unbroken s) {cs : List Char}
    (hsub : cs.Sublist s.toList) : Unbroken (String.ofList cs) := by
  intro c hc
  rw [String.toList_ofList] at hc
  exact h c (hsub.subset hc)

/-- The pairs that are left of a reply in the right form: those whose name is a word. -/
def keptPairs (answers : List (String × String)) : List String :=
  answers.filterMap fun entry =>
    if IsWordName entry.1 then some (entry.1 ++ ": " ++ strip entry.2) else none

theorem cleanReply_formReply {answers : List (String × String)} (hne : answers ≠ [])
    (hwritten : ∀ entry ∈ answers, IsWritten entry.1)
    (hunbroken : ∀ entry ∈ answers, Unbroken entry.2) :
    cleanReply (formReply answers) = joinWith "," (keptPairs answers) := by
  -- the reply is cut exactly where its pairs were joined
  have hpieces : pieces (fun c => c == '\n' || c == ',') (formReply answers).toList =
      (answers.map fun entry => entry.1 ++ ": " ++ entry.2).map String.toList := by
    unfold formReply
    apply pieces_joinWith (by rfl) (by rfl)
    · simpa using hne
    · intro t ht c hc
      rcases List.mem_map.1 ht with ⟨entry, hentry, rfl⟩
      have hpair : Unbroken (entry.1 ++ ": " ++ entry.2) :=
        (hwritten entry hentry).unbroken.pair (hunbroken entry hentry)
      simpa [and_comm] using hpair c hc
  unfold cleanReply keptPairs
  rw [hpieces, List.filterMap_map, List.filterMap_map]
  congr 1
  apply List.filterMap_congr
  intro entry hentry
  exact cleanPiece?_form entry.2 (hwritten entry hentry)

/-- Pairs without commas are read one after the other. -/
theorem foldl_addPair_joinWith (expected : List String) (known : List (String × String))
    {pairs : List String} (h : ∀ pair ∈ pairs, ',' ∉ pair.toList) :
    (splitAt ',' (joinWith "," pairs)).foldl (addPair expected) known =
      pairs.foldl (addPair expected) known := by
  by_cases hne : pairs = []
  · subst hne
    rfl
  · rw [splitAt_joinWith (by rfl) hne h]

/-- The pairs of a reply in the right form give each name what its value is read as. -/
theorem foldl_addPair_form {expected : List String} {answers : List (String × String)}
    (hwritten : ∀ entry ∈ answers, IsWritten entry.1)
    (hexpected : ∀ entry ∈ answers, entry.1 ∈ expected) (known : List (String × String)) :
    (keptPairs answers).foldl (addPair expected) known =
      answers.foldl (fun known entry => keepFirst known entry.1 (readAs entry.1 entry.2)) known := by
  unfold keptPairs
  -- a name that is no word is left out on the left and read as nothing on the right
  induction answers generalizing known with
  | nil => rfl
  | cons entry rest ih =>
      have hrest := ih (fun e he => hwritten e (List.mem_cons_of_mem entry he))
        fun e he => hexpected e (List.mem_cons_of_mem entry he)
      by_cases hword : IsWordName entry.1
      · have hpair := addPair_form known entry.2 (hwritten entry List.mem_cons_self) hword
          (hexpected entry List.mem_cons_self)
        simp only [List.filterMap_cons, if_pos hword, List.foldl_cons, hpair, hrest]
      · have hnothing : readAs entry.1 entry.2 = "" := by simp [readAs, hword]
        simp only [List.filterMap_cons, if_neg hword, List.foldl_cons, hnothing, keepFirst_empty,
          hrest]

/-- A reply in the right form is read entry by entry. -/
theorem readPairs_formReply {answers : List (String × String)}
    (hdistinct : (answers.map (·.1)).Nodup)
    (hwritten : ∀ entry ∈ answers, IsWritten entry.1)
    (hunbroken : ∀ entry ∈ answers, Unbroken entry.2) :
    readPairs (cleanReply (formReply answers)) (answers.map (·.1)) =
      answers.map fun entry => (entry.1, readAs entry.1 entry.2) := by
  by_cases hne : answers = []
  · subst hne
    rfl
  · -- trimming brings no comma into a pair, so that the second cut finds the same pairs
    have hpairs : ∀ pair ∈ keptPairs answers, ',' ∉ pair.toList := by
      intro pair hpair hcomma
      rcases List.mem_filterMap.1 hpair with ⟨entry, hentry, hform⟩
      have hvalue : Unbroken (strip entry.2) :=
        (hunbroken entry hentry).of_sublist (trimOf_sublist isBlank _)
      have hboth := (hwritten entry hentry).unbroken.pair hvalue
      split at hform
      · cases hform
        exact (hboth ',' hcomma).1 rfl
      · cases hform
    have hexpected : ∀ entry ∈ answers, entry.1 ∈ answers.map (·.1) :=
      fun entry hentry => List.mem_map.2 ⟨entry, hentry, rfl⟩
    unfold readPairs
    rw [cleanReply_formReply hne hwritten hunbroken, foldl_addPair_joinWith _ _ hpairs,
      foldl_addPair_form hwritten hexpected, distinct_of_nodup hdistinct, List.map_map]
    exact foldl_keepFirst (fun entry => readAs entry.1 entry.2) hdistinct [] (by simp)

/-- Nothing is read for no names. -/
theorem readPairs_nil (reply : String) : readPairs reply [] = [] := by
  have hstep : ∀ pair : String, addPair [] [] pair = [] := by
    intro pair
    unfold addPair
    cases pairParts? pair with
    | none => rfl
    | some parts => rfl
  unfold readPairs
  induction splitAt ',' reply with
  | nil => rfl
  | cons pair rest ih => exact (congrArg (rest.foldl (addPair [])) (hstep pair)).trans ih

/-! ## Values of any reply -/

theorem afterTick_sublist (cs : List Char) : (afterTick cs).Sublist cs := by
  unfold afterTick
  split
  · exact List.sublist_cons_self _ _
  · exact List.Sublist.refl _

theorem afterBullet_sublist (cs : List Char) : (afterBullet cs).Sublist cs := by
  unfold afterBullet
  split
  · exact List.Sublist.refl _
  · rename_i c rest
    split
    · exact List.sublist_cons_self c rest
    · split
      · split
        · rename_i d after hdrop
          split
          · have hsub : (d :: after).Sublist (c :: rest) := hdrop ▸ List.dropWhile_sublist isDecimal
            exact (List.sublist_cons_self d after).trans hsub
          · exact List.Sublist.refl _
        · exact List.Sublist.refl _
      · exact List.Sublist.refl _

/-- A name and a value are read from what is left of a piece: a word, and what follows its colon. -/
theorem exists_of_pieceParts?_eq_some {piece name value : List Char}
    (h : pieceParts? piece = some (name, value)) :
    ∃ start after, start.Sublist piece ∧ (':' :: after).Sublist start ∧
      name = start.takeWhile isWord ∧ name ≠ [] ∧ value = trim after := by
  -- all that is skipped before the name is dropped from the front
  have hstart : (afterTick ((afterBullet (piece.dropWhile isBlank)).dropWhile isBlank)).Sublist
      piece :=
    (afterTick_sublist _).trans ((List.dropWhile_sublist _).trans
      ((afterBullet_sublist _).trans (List.dropWhile_sublist _)))
  unfold pieceParts? at h
  generalize afterTick ((afterBullet (piece.dropWhile isBlank)).dropWhile isBlank) = start
    at h hstart
  have hrest : ((afterTick (start.dropWhile isWord)).dropWhile isBlank).Sublist start :=
    (List.dropWhile_sublist _).trans ((afterTick_sublist _).trans (List.dropWhile_sublist _))
  dsimp only at h
  split at h
  · cases h
  · rename_i c others after hname hafter
    cases h
    rw [hafter] at hrest
    exact ⟨start, after, hstart, hrest, rfl, hname ▸ List.cons_ne_nil c others, rfl⟩
  · cases h

theorem pieceParts?_sublist {piece name value : List Char}
    (h : pieceParts? piece = some (name, value)) :
    name.Sublist piece ∧ value.Sublist piece := by
  obtain ⟨start, after, hstart, hafter, rfl, -, rfl⟩ := exists_of_pieceParts?_eq_some h
  have hvalue : (trim after).Sublist (':' :: after) :=
    (trimOf_sublist isBlank after).trans (List.sublist_cons_self ':' after)
  exact ⟨(List.takeWhile_sublist isWord).trans hstart, hvalue.trans (hafter.trans hstart)⟩

theorem cut?_sublist {p : Char → Bool} {cs before after : List Char}
    (h : cut? p cs = some (before, after)) : after.Sublist cs := by
  induction cs generalizing before with
  | nil => simp [cut?] at h
  | cons c rest ih =>
      unfold cut? at h
      split at h
      · cases h
        exact List.sublist_cons_self _ _
      · rcases Option.map_eq_some_iff.1 h with ⟨⟨b, a⟩, hcut, heq⟩
        cases heq
        exact (ih hcut).cons c

/-- The pairs of any reply hold no comma, because they are cut there, and no line feed. -/
theorem unbroken_of_mem_splitAt_cleanReply {reply pair : String}
    (h : pair ∈ splitAt ',' (cleanReply reply)) : Unbroken pair := by
  rcases List.mem_map.1 h with ⟨cs, hcs, rfl⟩
  intro c hc
  rw [String.toList_ofList] at hc
  constructor
  · rintro rfl
    exact not_mem_of_mem_pieces hcs ',' hc (by rfl)
  · rintro rfl
    rcases mem_joinWith (mem_of_mem_pieces hcs hc) with hsep | ⟨t, ht, hmem⟩
    · exact absurd hsep (by decide)
    · -- a piece was cut at line feeds, and cleaning adds none
      rcases List.mem_filterMap.1 ht with ⟨piece, hpiece, hclean⟩
      rcases Option.map_eq_some_iff.1 hclean with ⟨⟨name, value⟩, hparts, rfl⟩
      rcases pieceParts?_sublist hparts with ⟨hname, hvalue⟩
      have hbroken : '\n' ∈ piece := by
        have hcases : '\n' ∈ name ∨ '\n' ∈ value := by simpa using hmem
        rcases hcases with hmem | hmem
        · exact hname.subset hmem
        · exact hvalue.subset hmem
      exact not_mem_of_mem_pieces hpiece '\n' hbroken (by rfl)

/-- A pair adds no value with a comma or a line feed. -/
theorem unbroken_addPair {expected : List String} {known : List (String × String)} {pair : String}
    (hknown : ∀ entry ∈ known, Unbroken entry.2) (hpair : Unbroken pair) :
    ∀ entry ∈ addPair expected known pair, Unbroken entry.2 := by
  unfold addPair
  cases hparts : pairParts? pair with
  | none => exact hknown
  | some parts =>
      rcases parts with ⟨name, value⟩
      dsimp only
      cases meantName? expected name with
      | none => exact hknown
      | some key =>
          dsimp only
          -- the value is what stands after the colon of the pair, trimmed
          have hvalue : Unbroken value := by
            rcases Option.map_eq_some_iff.1 hparts with ⟨⟨before, after⟩, hcut, heq⟩
            cases heq
            apply hpair.of_sublist
            exact (trimOf_sublist _ _).trans ((trimOf_sublist _ _).trans
              ((trimOf_sublist _ _).trans (cut?_sublist hcut)))
          split
          · exact hknown
          · intro entry hentry
            rcases List.mem_map.1 hentry with ⟨⟨n, v⟩, hn, rfl⟩
            dsimp only
            split
            · exact hvalue
            · exact hknown (n, v) hn

/-- Whatever is replied, no value that is read holds a comma or a line feed. -/
theorem unbroken_of_mem_readPairs {reply : String} {expected : List String}
    {entry : String × String} (h : entry ∈ readPairs (cleanReply reply) expected) :
    Unbroken entry.2 := by
  have hfrom : ∀ (pairs : List String) (known : List (String × String)), (∀ pair ∈ pairs, Unbroken pair) →
      (∀ entry ∈ known, Unbroken entry.2) →
      ∀ entry ∈ pairs.foldl (addPair expected) known, Unbroken entry.2 := by
    intro pairs
    induction pairs with
    | nil => exact fun known _ hknown => hknown
    | cons pair rest ih =>
        intro known hpairs hknown
        exact ih _ (fun p hp => hpairs p (List.mem_cons_of_mem pair hp))
          (unbroken_addPair hknown (hpairs pair List.mem_cons_self))
  refine hfrom _ _ (fun pair => unbroken_of_mem_splitAt_cleanReply) ?_ entry h
  intro start hstart c hc
  rcases List.mem_map.1 hstart with ⟨n, -, rfl⟩
  cases hc

end RoleAudit
