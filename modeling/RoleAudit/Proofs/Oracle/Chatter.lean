import RoleAudit.Proofs.Oracle.Reply

/-!
# Chatter in a reply

A reply in words gives its pairs among other things: in a list with marks, with blanks and ticks
around names, between lines that say something else.

- `Spaces`, `IsItemMark`, `Decoration`: what may stand around the name and the value of a pair;
- `Renders`, `Joined`: the pieces that pairs are written in, with chatter between them, and the text
  that they make;
- `pieceParts?_render`: the name and the value of a decorated pair;
- `exists_answers_cleanReply`: what is left of any text are pairs in the form that is asked for;
- `chatter_removed`: the pairs of a text are left, and nothing else.
-/

namespace RoleAudit

open RoleAudit.Text

/-! ## Characters -/

/-- The blank characters by their numbers. -/
def blankCodes : List Nat :=
  List.range' 9 5 ++ List.range' 28 5 ++ List.range' 0x2000 11 ++
    [0x85, 0xa0, 0x1680, 0x2028, 0x2029, 0x202f, 0x205f, 0x3000]

/-- What the blank characters have one by one, every blank character has. -/
theorem forall_isBlank (p : Char → Prop) (h : ∀ n ∈ blankCodes, p (Char.ofNat n)) {c : Char}
    (hc : isBlank c = true) : p c := by
  have hmem : c.toNat ∈ blankCodes := by
    simp only [isBlank, Bool.or_eq_true, Bool.and_eq_true, decide_eq_true_eq, beq_iff_eq] at hc
    simp only [blankCodes, List.mem_append, List.mem_range'_1, List.mem_cons, List.not_mem_nil,
      or_false]
    omega
  rw [← Char.ofNat_toNat c]
  exact h c.toNat hmem

theorem isWord_eq_false_of_isBlank {c : Char} (h : isBlank c = true) : isWord c = false := by
  by_cases hascii : c.toNat < 128
  · exact forall_isBlank (fun c => c.toNat < 128 → isWord c = false) (by decide +kernel) h hascii
  · -- no range of letters or numbers reaches into a stretch with blanks
    have haround : ∀ r ∈ alphanumericRanges, 0x3000 < r.1 ∨ 0x205f < r.1 ∧ r.2 < 0x3000 ∨
        0x1680 < r.1 ∧ r.2 < 0x2000 ∨ 0xa0 < r.1 ∧ r.2 < 0x1680 ∨ r.2 < 0x80 := by
      decide +kernel
    simp only [isBlank, Bool.or_eq_true, Bool.and_eq_true, decide_eq_true_eq, beq_iff_eq] at h
    rw [isWord, if_neg hascii]
    refine List.any_eq_false.2 fun r hr => ?_
    have hr := haround r hr
    simp only [Bool.and_eq_true, decide_eq_true_eq]
    omega

theorem endsNumber_of_isBlank {c : Char} (h : isBlank c = true) : EndsNumber c where
  bullet := forall_isBlank (fun c => bullets.contains c = false) (by decide +kernel) h
  decimal := forall_isBlank (fun c => isDecimal c = false) (by decide +kernel) h
  dot := forall_isBlank (· ≠ '.') (by decide +kernel) h
  paren := forall_isBlank (· ≠ ')') (by decide +kernel) h

theorem isBlank_eq_false_of_isDecimal {c : Char} (h : isDecimal c = true) : isBlank c = false := by
  cases hblank : isBlank c with
  | false => rfl
  | true =>
      rw [(endsNumber_of_isBlank hblank).decimal] at h
      cases h

theorem isBlank_eq_false_of_bullet {c : Char} (h : c ∈ bullets) : isBlank c = false := by
  have hbullets : (bullets.all fun b => !isBlank b) = true := by decide
  simpa using List.all_eq_true.1 hbullets c h

/-- A name of letters, digits and underscores holds no blanks and no marks. -/
theorem IsWordName.isWritten {name : String} (h : IsWordName name) : IsWritten name := by
  intro c hc
  have hword := h.2 c hc
  have hmarks : (replyMarks.all fun m => !isWord m) = true := by decide +kernel
  constructor
  · cases hblank : isBlank c with
    | false => rfl
    | true =>
        rw [isWord_eq_false_of_isBlank hblank] at hword
        cases hword
  · intro hmark
    have hnone := List.all_eq_true.1 hmarks c hmark
    simp [hword] at hnone

/-! ## Pairs among other things -/

/-- A name and a value that a reply can give. -/
structure IsAnswer (name value : String) : Prop where
  word : IsWordName name
  unbroken : Unbroken value
  bare : BareOf isBlank value.toList

/-- Blanks on one line. -/
def AreSpaces (cs : List Char) : Prop :=
  ∀ c ∈ cs, isBlank c = true ∧ c ≠ '\n'

instance : DecidablePred AreSpaces :=
  List.decidableBAll fun c => isBlank c = true ∧ c ≠ '\n'

/-- What stands where blanks may stand. -/
abbrev Spaces : Type :=
  { cs : List Char // AreSpaces cs }

/-- What begins an item of a list: nothing, a bullet, or a number with a point or a bracket. -/
inductive IsItemMark : List Char → Prop where
  | none : IsItemMark []
  | bullet {c : Char} (h : c ∈ bullets) : IsItemMark [c]
  | number {d : Char} {digits : List Char} {c : Char} (h : ∀ e ∈ d :: digits, isDecimal e = true)
      (hc : c = '.' ∨ c = ')') : IsItemMark (d :: digits ++ [c])

/-- A tick, or nothing. -/
def tick (isThere : Bool) : List Char :=
  if isThere then ['`'] else []

/-- What stands around the name and the value of a pair. -/
structure Decoration where
  indent : Spaces
  mark : { cs : List Char // IsItemMark cs }
  gap : Spaces
  isOpened : Bool
  isClosed : Bool
  beforeColon : Spaces
  afterColon : Spaces
  trailing : Spaces

namespace Decoration

variable (d : Decoration)

/-- What follows the name of a pair. -/
def afterName (value : String) : List Char :=
  tick d.isClosed ++ d.beforeColon.1 ++
    ':' :: (d.afterColon.1 ++ value.toList ++ d.trailing.1)

/-- A pair from its name on. -/
def fromName (name value : String) : List Char :=
  tick d.isOpened ++ name.toList ++ d.afterName value

/-- A pair with what stands around it. -/
def render (name value : String) : List Char :=
  d.indent.1 ++ (d.mark.1 ++ (d.gap.1 ++ d.fromName name value))

end Decoration

/-- A piece that gives no pair. -/
def IsChatter (piece : List Char) : Prop :=
  ∀ c ∈ piece, c ≠ ':' ∧ c ≠ ',' ∧ c ≠ '\n'

instance : DecidablePred IsChatter :=
  List.decidableBAll fun c => c ≠ ':' ∧ c ≠ ',' ∧ c ≠ '\n'

/-- Pairs are written in pieces, in order and each in its own, with any chatter between them. -/
inductive Renders : List (String × String) → List (List Char) → Prop where
  | nil : Renders [] []
  | chatter {answers : List (String × String)} {pieces : List (List Char)} {piece : List Char}
      (h : IsChatter piece) (hrest : Renders answers pieces) : Renders answers (piece :: pieces)
  | pair {answers : List (String × String)} {pieces : List (List Char)} {name value : String}
      (d : Decoration) (hrest : Renders answers pieces) :
      Renders ((name, value) :: answers) (d.render name value :: pieces)

/-- Pieces make a text, with a line feed or a comma between neighbours. -/
inductive Joined : List (List Char) → List Char → Prop where
  | nil : Joined [] []
  | one (piece : List Char) : Joined [piece] piece
  | more {piece : List Char} {c : Char} {pieces : List (List Char)} {text : List Char}
      (hc : c = '\n' ∨ c = ',') (hne : pieces ≠ []) (hrest : Joined pieces text) :
      Joined (piece :: pieces) (piece ++ c :: text)

/-! ## One pair -/

theorem afterBullet_bullet {c : Char} (h : c ∈ bullets) (rest : List Char) :
    afterBullet (c :: rest) = rest := by
  unfold afterBullet
  dsimp only
  rw [if_pos (List.contains_iff_mem.2 h)]

theorem afterBullet_number {d : Char} {digits : List Char} {c : Char}
    (h : ∀ e ∈ d :: digits, isDecimal e = true) (hc : c = '.' ∨ c = ')') (rest : List Char) :
    afterBullet (d :: digits ++ c :: rest) = rest := by
  have hbullets : (bullets.all fun b => !isDecimal b) = true := by decide +kernel
  have hd : isDecimal d = true := h d List.mem_cons_self
  have hnot : ¬ bullets.contains d = true := by
    intro hmem
    have hnone := List.all_eq_true.1 hbullets d (List.contains_iff_mem.1 hmem)
    simp [hd] at hnone
  have hstop : isDecimal c = false := by
    rcases hc with rfl | rfl <;> decide
  -- the digits end where the dot or the bracket stands
  have hdrop : (d :: digits ++ c :: rest).dropWhile isDecimal = c :: rest := by
    rw [List.dropWhile_append_of_pos h, List.dropWhile_cons_of_neg (by simp [hstop])]
  unfold afterBullet
  rw [List.cons_append] at hdrop ⊢
  dsimp only
  rw [if_neg hnot, if_pos hd, hdrop]
  rcases hc with rfl | rfl <;> rfl

section Pair

variable (d : Decoration) {name value : String}

theorem dropWhile_spaces (spaces : Spaces) (cs : List Char) :
    (spaces.1 ++ cs).dropWhile isBlank = cs.dropWhile isBlank :=
  List.dropWhile_append_of_pos fun c hc => (spaces.2 c hc).1

/-- A name is followed by a tick, by a blank or by the colon. -/
theorem exists_afterName_eq_cons (value : String) :
    ∃ c rest, d.afterName value = c :: rest ∧ isWord c = false ∧ EndsNumber c := by
  unfold Decoration.afterName
  cases d.isClosed with
  | true => exact ⟨'`', _, rfl, by decide, by decide, by decide, by decide, by decide⟩
  | false =>
      cases hblanks : d.beforeColon.1 with
      | nil => exact ⟨':', _, rfl, by decide, by decide, by decide, by decide, by decide⟩
      | cons c rest =>
          have hc := (d.beforeColon.2 c (hblanks ▸ List.mem_cons_self)).1
          exact ⟨c, _, rfl, isWord_eq_false_of_isBlank hc, endsNumber_of_isBlank hc⟩

/-- After the name and its tick there are blanks, the colon and the value. -/
theorem dropWhile_afterTick_afterName (value : String) :
    (afterTick (d.afterName value)).dropWhile isBlank =
      ':' :: (d.afterColon.1 ++ value.toList ++ d.trailing.1) := by
  have hticked : afterTick (d.afterName value) =
      d.beforeColon.1 ++ ':' :: (d.afterColon.1 ++ value.toList ++ d.trailing.1) := by
    unfold Decoration.afterName
    -- a tick that closes the name is dropped, and without one nothing is
    cases d.isClosed with
    | true => rfl
    | false =>
        cases hblanks : d.beforeColon.1 with
        | nil => rfl
        | cons c rest =>
            refine afterTick_cons_of_ne ?_ _
            rintro rfl
            have hblank := (d.beforeColon.2 '`' (hblanks ▸ List.mem_cons_self)).1
            exact absurd hblank (by decide)
  rw [hticked, dropWhile_spaces]
  rfl

/-- Blanks and the mark of a list item are passed, up to what begins with neither. -/
theorem dropWhile_afterBullet_mark {start : List Char} (hblank : start.dropWhile isBlank = start)
    (hbullet : afterBullet start = start) :
    (afterBullet ((d.indent.1 ++ (d.mark.1 ++ (d.gap.1 ++ start))).dropWhile isBlank)).dropWhile
        isBlank = start := by
  have hgap : (d.gap.1 ++ start).dropWhile isBlank = start := by rw [dropWhile_spaces, hblank]
  rw [dropWhile_spaces]
  obtain ⟨mark, hmark⟩ := d.mark
  cases hmark with
  | none =>
      -- the blanks before the mark and behind it are one stretch
      rw [List.nil_append, hgap, hbullet, hblank]
  | @bullet c hc =>
      have hdrop : (c :: (d.gap.1 ++ start)).dropWhile isBlank = c :: (d.gap.1 ++ start) :=
        List.dropWhile_cons_of_neg (by simp [isBlank_eq_false_of_bullet hc])
      rw [List.singleton_append, hdrop, afterBullet_bullet hc, hgap]
  | @number e digits c hdigits hc =>
      have hblank : isBlank e = false := isBlank_eq_false_of_isDecimal (hdigits e List.mem_cons_self)
      rw [List.append_assoc, List.singleton_append, List.cons_append,
        List.dropWhile_cons_of_neg (by simp [hblank]), ← List.cons_append,
        afterBullet_number hdigits hc, hgap]

variable (h : IsWordName name)

include h

/-- What begins with a tick or a name begins with no blank, and with no mark of a list item. -/
theorem fromName_bare (value : String) :
    (d.fromName name value).dropWhile isBlank = d.fromName name value ∧
      afterBullet (d.fromName name value) = d.fromName name value := by
  unfold Decoration.fromName
  cases d.isOpened with
  | true => exact ⟨rfl, rfl⟩
  | false =>
      obtain ⟨c, rest, hrest, -, hc⟩ := exists_afterName_eq_cons d value
      obtain ⟨b, others, hname⟩ := List.exists_cons_of_ne_nil (mt String.toList_eq_nil_iff.1 h.1)
      have hb : isBlank b = false := (h.isWritten b (hname ▸ List.mem_cons_self)).1
      constructor
      · rw [hname]
        exact List.dropWhile_cons_of_neg (by simp [hb])
      · rw [hrest]
        exact afterBullet_piece h.isWritten hc

/-- The name and the value are read, whatever stands around them. -/
theorem pieceParts?_render (hvalue : BareOf isBlank value.toList) :
    pieceParts? (d.render name value) = some (name.toList, value.toList) := by
  -- what is skipped in front ends where the tick or the name stands
  obtain ⟨hblank, hbullet⟩ := fromName_bare d h value
  obtain ⟨b, others, hname⟩ := List.exists_cons_of_ne_nil (mt String.toList_eq_nil_iff.1 h.1)
  obtain ⟨c, rest, hrest, hword, -⟩ := exists_afterName_eq_cons d value
  have hticked : afterTick (d.fromName name value) = name.toList ++ d.afterName value := by
    unfold Decoration.fromName
    cases d.isOpened with
    | true => rfl
    | false =>
        rw [hname]
        refine afterTick_cons_of_ne ?_ _
        rintro rfl
        exact (h.isWritten '`' (hname ▸ List.mem_cons_self)).2 (by decide)
  have htake : (name.toList ++ d.afterName value).takeWhile isWord = name.toList := by
    rw [List.takeWhile_append_of_pos h.2, hrest, List.takeWhile_cons_of_neg (by simp [hword]),
      List.append_nil]
  have hdrop : (name.toList ++ d.afterName value).dropWhile isWord = d.afterName value := by
    rw [List.dropWhile_append_of_pos h.2, hrest, List.dropWhile_cons_of_neg (by simp [hword])]
  have htrim : trim (d.afterColon.1 ++ value.toList ++ d.trailing.1) = value.toList := by
    unfold trim
    rw [trimOf_around (fun c hc => (d.afterColon.2 c hc).1) fun c hc => (d.trailing.2 c hc).1]
    exact trimOf_eq_self_iff.2 hvalue
  unfold pieceParts? Decoration.render
  dsimp only
  rw [dropWhile_afterBullet_mark d hblank hbullet, hticked, htake, hdrop,
    dropWhile_afterTick_afterName, hname]
  exact congrArg (fun v => some (b :: others, v)) htrim

end Pair

/-- A decorated pair is cleaned to its name and its value. -/
theorem cleanPiece?_render (d : Decoration) {name value : String} (h : IsAnswer name value) :
    cleanPiece? (d.render name value) = some (name ++ ": " ++ value) := by
  unfold cleanPiece?
  rw [pieceParts?_render d h.word h.bare, Option.map_some]
  simp [← String.toList_inj]

/-- A piece without a colon gives no pair. -/
theorem cleanPiece?_chatter {piece : List Char} (h : IsChatter piece) :
    cleanPiece? piece = none := by
  unfold cleanPiece?
  cases hparts : pieceParts? piece with
  | none => rfl
  | some parts =>
      obtain ⟨start, after, hstart, hafter, -⟩ := exists_of_pieceParts?_eq_some hparts
      have hcolon : ':' ∈ piece := hstart.subset (hafter.subset List.mem_cons_self)
      exact absurd rfl (h ':' hcolon).1

/-! ## All pairs -/

/-- A character at which a reply is cut. -/
def isReplyBreak (c : Char) : Bool :=
  c == '\n' || c == ','

theorem Spaces.unbroken (spaces : Spaces) : ∀ c ∈ spaces.1, ¬ isReplyBreak c = true := by
  intro c hc hbreak
  obtain ⟨hblank, hline⟩ := spaces.2 c hc
  have hcases : c = '\n' ∨ c = ',' := by simpa [isReplyBreak] using hbreak
  rcases hcases with rfl | rfl
  · exact hline rfl
  · exact absurd hblank (by decide)

theorem IsItemMark.unbroken {mark : List Char} (h : IsItemMark mark) :
    ∀ c ∈ mark, ¬ isReplyBreak c = true := by
  have hbreaks : ∀ {c : Char}, isReplyBreak c = true → c = '\n' ∨ c = ',' := fun hc => by
    simpa [isReplyBreak] using hc
  intro c hc hbreak
  -- neither a bullet nor a number holds a comma or a line feed
  cases h with
  | none => cases hc
  | bullet hbullet =>
      rw [List.mem_singleton] at hc
      subst hc
      rcases hbreaks hbreak with rfl | rfl <;> exact absurd hbullet (by decide)
  | number hdigits hend =>
      rcases List.mem_append.1 hc with hc | hc
      · have hdigit := hdigits c hc
        rcases hbreaks hbreak with rfl | rfl <;> exact absurd hdigit (by decide)
      · rw [List.mem_singleton] at hc
        subst hc
        rcases hend with rfl | rfl <;> exact absurd hbreak (by decide)

theorem Unbroken.not_isReplyBreak {s : String} (h : Unbroken s) :
    ∀ c ∈ s.toList, ¬ isReplyBreak c = true := by
  intro c hc
  simpa [isReplyBreak, and_comm] using h c hc

theorem not_isReplyBreak_of_mem_tick (isThere : Bool) :
    ∀ c ∈ tick isThere, ¬ isReplyBreak c = true := by
  cases isThere with
  | false => exact fun c hc => nomatch hc
  | true => exact List.forall_mem_singleton.2 (by decide)

/-- A reply is cut nowhere inside a decorated pair. -/
theorem not_isReplyBreak_of_mem_render (d : Decoration) {name value : String}
    (h : IsAnswer name value) : ∀ c ∈ d.render name value, ¬ isReplyBreak c = true := by
  unfold Decoration.render Decoration.fromName Decoration.afterName
  simp only [List.forall_mem_append, List.forall_mem_cons]
  exact ⟨d.indent.unbroken, d.mark.2.unbroken, d.gap.unbroken,
    ⟨not_isReplyBreak_of_mem_tick _, h.word.isWritten.unbroken.not_isReplyBreak⟩,
    ⟨not_isReplyBreak_of_mem_tick _, d.beforeColon.unbroken⟩, by decide,
    ⟨d.afterColon.unbroken, h.unbroken.not_isReplyBreak⟩, d.trailing.unbroken⟩

/-- Joined pieces are told apart again. -/
theorem pieces_of_joined {texts : List (List Char)} {text : List Char} (h : Joined texts text)
    (hne : texts ≠ []) (hunbroken : ∀ piece ∈ texts, ∀ c ∈ piece, ¬ isReplyBreak c = true) :
    pieces isReplyBreak text = texts := by
  induction h with
  | nil => exact absurd rfl hne
  | one piece => exact pieces_of_not_mem (hunbroken piece List.mem_cons_self)
  | @more piece c texts text hc hrest _ ih =>
      have hbreak : isReplyBreak c = true := by
        rcases hc with rfl | rfl <;> rfl
      rw [pieces_append hbreak, ih hrest fun p hp => hunbroken p (List.mem_cons_of_mem piece hp),
        pieces_of_not_mem (hunbroken piece List.mem_cons_self), List.singleton_append]

theorem Renders.unbroken {answers : List (String × String)} {texts : List (List Char)}
    (h : Renders answers texts) (hanswers : ∀ e ∈ answers, IsAnswer e.1 e.2) :
    ∀ piece ∈ texts, ∀ c ∈ piece, ¬ isReplyBreak c = true := by
  induction h with
  | nil => exact fun piece hpiece => nomatch hpiece
  | chatter hpiece _ ih =>
      rw [List.forall_mem_cons]
      refine ⟨fun c hc => ?_, ih hanswers⟩
      simpa [isReplyBreak, and_comm] using (hpiece c hc).2
  | pair d _ ih =>
      rw [List.forall_mem_cons] at hanswers ⊢
      exact ⟨not_isReplyBreak_of_mem_render d hanswers.1, ih hanswers.2⟩

/-- What is left of the pieces are the pairs, in order. -/
theorem Renders.filterMap_cleanPiece? {answers : List (String × String)} {texts : List (List Char)}
    (h : Renders answers texts) (hanswers : ∀ e ∈ answers, IsAnswer e.1 e.2) :
    texts.filterMap cleanPiece? = answers.map fun (name, value) => name ++ ": " ++ value := by
  induction h with
  | nil => rfl
  | chatter hpiece _ ih => rw [List.filterMap_cons_none (cleanPiece?_chatter hpiece), ih hanswers]
  | pair d _ ih =>
      rw [List.forall_mem_cons] at hanswers
      rw [List.filterMap_cons_some (cleanPiece?_render d hanswers.1), ih hanswers.2, List.map_cons]

theorem cleanReply_eq (text : String) :
    cleanReply text = joinWith "," ((pieces isReplyBreak text.toList).filterMap cleanPiece?) := rfl

theorem cleanReply_of_renders {answers : List (String × String)} {texts : List (List Char)}
    {text : String} (hanswers : ∀ e ∈ answers, IsAnswer e.1 e.2) (hrenders : Renders answers texts)
    (hjoined : Joined texts text.toList) : cleanReply text = formReply answers := by
  have hpairs := hrenders.filterMap_cleanPiece? hanswers
  rw [cleanReply_eq, formReply, ← hpairs]
  by_cases hne : texts = []
  · -- no piece at all makes the empty text, which is cut into one empty piece
    subst hne
    cases hrenders
    generalize text.toList = cs at hjoined
    cases hjoined
    rfl
  · rw [pieces_of_joined hjoined hne (hrenders.unbroken hanswers)]

/-! ## What is left of any text -/

/-- The name that a piece gives is a word, and its value is bare. -/
theorem isAnswer_of_pieceParts? {piece name value : List Char}
    (hpiece : ∀ c ∈ piece, ¬ isReplyBreak c = true) (h : pieceParts? piece = some (name, value)) :
    IsAnswer (String.ofList name) (String.ofList value) := by
  obtain ⟨-, hsub⟩ := pieceParts?_sublist h
  obtain ⟨start, after, -, -, rfl, hne, rfl⟩ := exists_of_pieceParts?_eq_some h
  refine ⟨⟨?_, ?_⟩, ?_, ?_⟩
  · rwa [Ne, ← String.toList_eq_nil_iff, String.toList_ofList]
  · rw [String.toList_ofList]
    exact fun c hc => List.mem_takeWhile_imp hc
  · intro c hc
    rw [String.toList_ofList] at hc
    simpa [isReplyBreak, and_comm] using hpiece c (hsub.subset hc)
  · rw [String.toList_ofList]
    exact bareOf_trimOf isBlank after

theorem exists_answers_cleanReply (text : String) :
    ∃ answers, (∀ e ∈ answers, IsAnswer e.1 e.2) ∧ cleanReply text = formReply answers := by
  refine ⟨(pieces isReplyBreak text.toList).filterMap fun piece =>
    (pieceParts? piece).map (Prod.map String.ofList String.ofList), ?_, ?_⟩
  · intro e he
    obtain ⟨piece, hpiece, hread⟩ := List.mem_filterMap.1 he
    obtain ⟨⟨name, value⟩, hparts, rfl⟩ := Option.map_eq_some_iff.1 hread
    exact isAnswer_of_pieceParts? (not_mem_of_mem_pieces hpiece) hparts
  · rw [cleanReply_eq, formReply, List.map_filterMap]
    congr 2
    funext piece
    unfold cleanPiece?
    rw [Option.map_map]
    congr 1
    funext parts
    simp [← String.toList_inj]

/-- What is in the form that is asked for stays as it is. -/
theorem cleanReply_formReply_of_isAnswer {answers : List (String × String)}
    (h : ∀ e ∈ answers, IsAnswer e.1 e.2) : cleanReply (formReply answers) = formReply answers := by
  by_cases hne : answers = []
  · subst hne
    rfl
  · have hkept : keptPairs answers = answers.map fun (name, value) => name ++ ": " ++ value := by
      unfold keptPairs
      rw [← List.filterMap_eq_map]
      refine List.filterMap_congr fun e he => ?_
      have hbare : strip e.2 = e.2 := by
        unfold strip trim
        rw [trimOf_eq_self_iff.2 (h e he).bare, String.ofList_toList]
      rw [if_pos (h e he).word, hbare]
      rfl
    rw [cleanReply_formReply hne (fun e he => (h e he).word.isWritten)
      (fun e he => (h e he).unbroken), hkept, formReply]

/--
Whatever stands around the names and the values of pairs and between the pairs, and whichever
commas or line feeds stand between the pieces, the pairs are left in the form that is asked for, in
order. Cleaning any text once more leaves it as it is.
-/
theorem chatter_removed :
    (∀ (answers : List (String × String)) (texts : List (List Char)) (text : String),
      (∀ e ∈ answers, IsAnswer e.1 e.2) → Renders answers texts → Joined texts text.toList →
        cleanReply text = formReply answers) ∧
    ∀ text, cleanReply (cleanReply text) = cleanReply text := by
  refine ⟨fun answers texts text => cleanReply_of_renders, fun text => ?_⟩
  obtain ⟨answers, hanswers, hclean⟩ := exists_answers_cleanReply text
  rw [hclean, cleanReply_formReply_of_isAnswer hanswers]

/-- An item of a numbered list, with ticks around its name. -/
def numbered : Decoration where
  indent := ⟨[' '], by decide⟩
  mark := ⟨['1'] ++ ['.'], .number (List.forall_mem_singleton.2 (by decide)) (.inl rfl)⟩
  gap := ⟨[' '], by decide⟩
  isOpened := true
  isClosed := true
  beforeColon := ⟨[' '], by decide⟩
  afterColon := ⟨['\t'], by decide⟩
  trailing := ⟨['\r'], by decide⟩

/-- An item of a list with bullets. -/
def bulleted : Decoration where
  indent := ⟨[], by decide⟩
  mark := ⟨['•'], .bullet (by decide)⟩
  gap := ⟨[], by decide⟩
  isOpened := false
  isClosed := false
  beforeColon := ⟨[], by decide⟩
  afterColon := ⟨[], by decide⟩
  trailing := ⟨[' '], by decide⟩

theorem chatter_removed_listedReply :
    let answers := [("find", "User"), ("12", "")]
    let texts := ["Here you go".toList, numbered.render "find" "User", "---".toList,
      bulleted.render "12" ""]
    let text := "Here you go\n 1. `find` :\tUser\r\n---,•12: "
    (∀ e ∈ answers, IsAnswer e.1 e.2) ∧ Renders answers texts ∧ Joined texts text.toList ∧
      cleanReply text = formReply answers ∧ formReply answers = "find: User,12: " := by
  intro answers texts text
  have hanswers : ∀ e ∈ answers, IsAnswer e.1 e.2 := by
    rw [List.forall_mem_cons, List.forall_mem_singleton]
    exact ⟨⟨by decide, by decide, trimOf_eq_self_iff.1 (by decide)⟩,
      ⟨by decide, by decide, trimOf_eq_self_iff.1 (by decide)⟩⟩
  have hrenders : Renders answers texts :=
    .chatter (by decide) (.pair numbered (.chatter (by decide) (.pair bulleted .nil)))
  have hjoined : Joined texts text.toList := by
    have htext : text.toList = "Here you go".toList ++ '\n' :: (numbered.render "find" "User" ++
        '\n' :: ("---".toList ++ ',' :: bulleted.render "12" "")) := by
      decide
    rw [htext]
    exact .more (.inl rfl) (by simp) (.more (.inl rfl) (by simp)
      (.more (.inr rfl) (by simp) (.one _)))
  exact ⟨hanswers, hrenders, hjoined,
    chatter_removed.1 answers texts text hanswers hrenders hjoined, rfl⟩

end RoleAudit
