import Mathlib.Data.List.DropRight
import RoleAudit.Text.Blank
import RoleAudit.Text.Cut

/-!
# Pieces of texts

- `pieces_append`: cutting a text is compatible with joining it at a separator;
- `pieces_joinWith`, `splitAt_joinWith`: texts that are joined can be told apart again;
- `infix_of_mem_pieces`, `splitAt_append`: a piece stands in its text, and the pieces of two texts
  around a separator are those of both;
- `cut?_eq_some_iff`, `cut?_eq_none_iff`: a text is cut at the first character of a class;
- `startsWith_append`, `exists_eq_append_of_startsWith`: a text starts with what stands before its
  rest, and with nothing else;
- `trimOf_eq_self_iff`, `trimOf_around`: trimming keeps what has none of the characters at its ends,
  and drops them all.
-/

namespace RoleAudit
namespace Text

/-! ## Cutting -/

/-- A separator ends an empty piece. -/
theorem pieces_cons_of_pos {p : Char → Bool} {b : Char} (hb : p b = true) (rest : List Char) :
    pieces p (b :: rest) = [] :: pieces p rest := by
  rw [pieces, if_pos hb]

/-- Any other character joins the first piece of the rest. -/
theorem pieces_cons_of_neg {p : Char → Bool} {b : Char} (hb : ¬ p b = true) (rest : List Char) :
    ∃ first others, pieces p rest = first :: others ∧
      pieces p (b :: rest) = (b :: first) :: others := by
  rcases List.exists_cons_of_ne_nil (pieces_ne_nil p rest) with ⟨first, others, hrest⟩
  refine ⟨first, others, hrest, ?_⟩
  rw [pieces, if_neg hb, hrest]

/-- A separator between two stretches separates their pieces. -/
theorem pieces_append {p : Char → Bool} {c : Char} (hc : p c = true) (before after : List Char) :
    pieces p (before ++ c :: after) = pieces p before ++ pieces p after := by
  induction before with
  | nil => simp [pieces, hc]
  | cons b rest ih =>
      by_cases hb : p b = true
      · rw [List.cons_append, pieces_cons_of_pos hb, pieces_cons_of_pos hb, ih, List.cons_append]
      · -- `b` joins the first piece, which stands before the separator on both sides
        rcases pieces_cons_of_neg hb rest with ⟨first, others, hrest, hleft⟩
        rcases pieces_cons_of_neg hb (rest ++ c :: after) with ⟨first', others', hrest', hboth⟩
        rw [ih, hrest, List.cons_append] at hrest'
        cases hrest'
        rw [List.cons_append, hboth, hleft, List.cons_append]

/-- A text without separators is one piece. -/
theorem pieces_of_not_mem {p : Char → Bool} {cs : List Char} (h : ∀ c ∈ cs, ¬ p c = true) :
    pieces p cs = [cs] := by
  induction cs with
  | nil => rfl
  | cons c rest ih =>
      rw [pieces, if_neg (h c List.mem_cons_self), ih fun b hb => h b (List.mem_cons_of_mem c hb)]

/-- No piece holds a separator. -/
theorem not_mem_of_mem_pieces {p : Char → Bool} {cs piece : List Char} (h : piece ∈ pieces p cs) :
    ∀ c ∈ piece, ¬ p c = true := by
  induction cs generalizing piece with
  | nil =>
      rw [pieces, List.mem_singleton] at h
      subst h
      exact fun c hc => absurd hc List.not_mem_nil
  | cons b rest ih =>
      by_cases hb : p b = true
      · rw [pieces_cons_of_pos hb] at h
        rcases List.mem_cons.1 h with rfl | h
        · exact fun c hc => absurd hc List.not_mem_nil
        · exact ih h
      · -- the character goes to the front of the first piece of the rest
        rcases pieces_cons_of_neg hb rest with ⟨first, others, hrest, hpieces⟩
        rw [hpieces] at h
        rcases List.mem_cons.1 h with rfl | h
        · intro c hc
          rcases List.mem_cons.1 hc with rfl | hc
          · exact hb
          · exact ih (hrest ▸ List.mem_cons_self) c hc
        · exact ih (hrest ▸ List.mem_cons_of_mem first h)

/-- The pieces of a text are made of its characters. -/
theorem mem_of_mem_pieces {p : Char → Bool} {cs piece : List Char} (h : piece ∈ pieces p cs)
    {c : Char} (hc : c ∈ piece) : c ∈ cs := by
  induction cs generalizing piece with
  | nil =>
      rw [pieces, List.mem_singleton] at h
      exact h ▸ hc
  | cons b rest ih =>
      by_cases hb : p b = true
      · rw [pieces_cons_of_pos hb] at h
        rcases List.mem_cons.1 h with rfl | h
        · cases hc
        · exact List.mem_cons_of_mem b (ih h hc)
      · rcases pieces_cons_of_neg hb rest with ⟨first, others, hrest, hpieces⟩
        rw [hpieces] at h
        rcases List.mem_cons.1 h with rfl | h
        · rcases List.mem_cons.1 hc with rfl | hc
          · exact List.mem_cons_self
          · exact List.mem_cons_of_mem b (ih (hrest ▸ List.mem_cons_self) hc)
        · exact List.mem_cons_of_mem b (ih (hrest ▸ List.mem_cons_of_mem first h) hc)

/-- A piece stands in its text. -/
theorem infix_of_mem_pieces {p : Char → Bool} {cs piece : List Char} (h : piece ∈ pieces p cs) :
    piece <:+: cs := by
  -- the first piece is even the beginning of the text, which is what joining a character keeps
  have hboth : (∀ first others, pieces p cs = first :: others → first <+: cs) ∧
      ∀ piece ∈ pieces p cs, piece <:+: cs := by
    clear h
    induction cs with
    | nil => simp [pieces]
    | cons b rest ih =>
        by_cases hb : p b = true
        · rw [pieces_cons_of_pos hb]
          constructor
          · rintro first others ⟨⟩
            exact List.nil_prefix
          · intro piece hpiece
            rcases List.mem_cons.1 hpiece with rfl | hpiece
            · exact List.nil_infix
            · exact List.infix_cons (ih.2 piece hpiece)
        · rcases pieces_cons_of_neg hb rest with ⟨first, others, hrest, hpieces⟩
          have hfirst : b :: first <+: b :: rest :=
            List.cons_prefix_cons.2 ⟨rfl, ih.1 first others hrest⟩
          rw [hpieces]
          constructor
          · rintro first' others' ⟨⟩
            exact hfirst
          · intro piece hpiece
            rcases List.mem_cons.1 hpiece with rfl | hpiece
            · exact hfirst.isInfix
            · exact List.infix_cons (ih.2 piece (hrest ▸ List.mem_cons_of_mem first hpiece))
  exact hboth.2 piece h

/-- The pieces of two texts around a separator are those of both. -/
theorem splitAt_append {sep : String} {c : Char} (hsep : sep.toList = [c])
    (before after : String) :
    splitAt c (before ++ sep ++ after) = splitAt c before ++ splitAt c after := by
  have htext : (before ++ sep ++ after).toList = before.toList ++ c :: after.toList := by
    simp [hsep]
  unfold splitAt
  rw [htext, pieces_append (p := (· == c)) (beq_self_eq_true c), List.map_append]

/-- A text is cut at the first character of a class. -/
theorem cut?_eq_some_iff {p : Char → Bool} {cs before after : List Char} :
    cut? p cs = some (before, after) ↔
      ∃ c, cs = before ++ c :: after ∧ p c = true ∧ ∀ b ∈ before, p b = false := by
  induction cs generalizing before with
  | nil => simp [cut?]
  | cons c rest ih =>
      unfold cut?
      by_cases hc : p c = true
      · -- the cut is here, so that nothing stands before it
        rw [if_pos hc]
        constructor
        · rintro ⟨⟩
          exact ⟨c, rfl, hc, by simp⟩
        · rintro ⟨d, hcs, hd, hbefore⟩
          cases before with
          | nil =>
              cases hcs
              rfl
          | cons b others =>
              cases hcs
              exact absurd hc (by simp [hbefore c List.mem_cons_self])
      · -- the cut comes later, with this character before it
        rw [if_neg hc, Option.map_eq_some_iff]
        constructor
        · rintro ⟨⟨before', after'⟩, hcut, heq⟩
          cases heq
          obtain ⟨d, rfl, hd, hbefore⟩ := ih.1 hcut
          refine ⟨d, rfl, hd, List.forall_mem_cons.2 ⟨by simpa using hc, hbefore⟩⟩
        · rintro ⟨d, hcs, hd, hbefore⟩
          cases before with
          | nil =>
              cases hcs
              exact absurd hd hc
          | cons b others =>
              cases hcs
              exact ⟨(others, after), ih.2 ⟨d, rfl, hd, fun e he =>
                hbefore e (List.mem_cons_of_mem c he)⟩, rfl⟩

/-- A text without characters of a class is not cut. -/
theorem cut?_eq_none_iff {p : Char → Bool} {cs : List Char} :
    cut? p cs = none ↔ ∀ c ∈ cs, p c = false := by
  induction cs with
  | nil => simp [cut?]
  | cons c rest ih =>
      unfold cut?
      by_cases hc : p c = true <;> simp [hc, ih]

/-- Texts without separators are the pieces of what they are joined to. -/
theorem pieces_joinWith {p : Char → Bool} {sep : String} {c : Char} (hsep : sep.toList = [c])
    (hc : p c = true) {texts : List String} (hne : texts ≠ [])
    (h : ∀ t ∈ texts, ∀ b ∈ t.toList, ¬ p b = true) :
    pieces p (joinWith sep texts).toList = texts.map String.toList := by
  induction texts with
  | nil => exact absurd rfl hne
  | cons t rest ih =>
      have ht : pieces p t.toList = [t.toList] := pieces_of_not_mem (h t List.mem_cons_self)
      cases rest with
      | nil => exact ht
      | cons u others =>
          have hrest := ih (List.cons_ne_nil u others) fun v hv => h v (List.mem_cons_of_mem t hv)
          have hlist : (joinWith sep (t :: u :: others)).toList =
              t.toList ++ c :: (joinWith sep (u :: others)).toList := by
            simp [joinWith, hsep]
          rw [hlist, pieces_append hc, ht, hrest]
          rfl

theorem splitAt_joinWith {sep : String} {c : Char} (hsep : sep.toList = [c])
    {texts : List String} (hne : texts ≠ []) (h : ∀ t ∈ texts, c ∉ t.toList) :
    splitAt c (joinWith sep texts) = texts := by
  have hpieces : pieces (· == c) (joinWith sep texts).toList = texts.map String.toList := by
    refine pieces_joinWith hsep (p := (· == c)) (beq_self_eq_true c) hne ?_
    intro t ht b hb heq
    exact h t ht ((beq_iff_eq.1 heq) ▸ hb)
  unfold splitAt
  rw [hpieces, List.map_map]
  simp

/-- The characters of a joined text are those of its parts and of the separator. -/
theorem mem_joinWith {sep : String} {texts : List String} {c : Char}
    (h : c ∈ (joinWith sep texts).toList) : c ∈ sep.toList ∨ ∃ t ∈ texts, c ∈ t.toList := by
  induction texts with
  | nil => simp [joinWith] at h
  | cons t rest ih =>
      cases rest with
      | nil => exact Or.inr ⟨t, List.mem_cons_self, h⟩
      | cons u others =>
          have hparts : (c ∈ t.toList ∨ c ∈ sep.toList) ∨
              c ∈ (joinWith sep (u :: others)).toList := by
            simpa [joinWith, or_assoc] using h
          rcases hparts with (ht | hsep) | hrest
          · exact Or.inr ⟨t, List.mem_cons_self, ht⟩
          · exact Or.inl hsep
          · rcases ih hrest with hsep | ⟨v, hv, hc⟩
            · exact Or.inl hsep
            · exact Or.inr ⟨v, List.mem_cons_of_mem t hv, hc⟩

/-! ## Starting with a text -/

theorem startsWith_iff {s t : String} : startsWith s t = true ↔ t.toList <+: s.toList :=
  List.isPrefixOf_iff_prefix

theorem startsWith_append (t rest : String) : startsWith (t ++ rest) t = true := by
  rw [startsWith_iff, String.toList_append]
  exact List.prefix_append _ _

/-- What starts with a text goes on after it. -/
theorem exists_eq_append_of_startsWith {s t : String} (h : startsWith s t = true) :
    ∃ rest, s = t ++ rest := by
  rcases startsWith_iff.1 h with ⟨rest, hrest⟩
  refine ⟨String.ofList rest, ?_⟩
  rw [← String.toList_inj, ← hrest]
  simp

theorem trimOf_sublist (p : Char → Bool) (cs : List Char) : (trimOf p cs).Sublist cs :=
  (List.rdropWhile_prefix p _).sublist.trans (List.dropWhile_sublist p)

/-- What is trimmed stands in the text. -/
theorem infix_trimOf (p : Char → Bool) (cs : List Char) : trimOf p cs <:+: cs :=
  (List.rdropWhile_prefix p _).isInfix.trans (List.dropWhile_suffix p).isInfix

/-- None of the characters stands at either end. -/
def BareOf (p : Char → Bool) (cs : List Char) : Prop :=
  (∀ c, cs.head? = some c → p c = false) ∧ ∀ c, cs.getLast? = some c → p c = false

/-- Trimming keeps a text that has none of the characters at its ends, and only such a text. -/
theorem trimOf_eq_self_iff {p : Char → Bool} {cs : List Char} :
    trimOf p cs = cs ↔ BareOf p cs := by
  have hfirst : cs.dropWhile p = cs ↔ ∀ c, cs.head? = some c → p c = false := by
    cases cs with
    | nil => simp
    | cons c rest =>
        by_cases hc : p c = true
        · have hshorter : (rest.dropWhile p).length ≠ (c :: rest).length := by
            have := (List.dropWhile_sublist p (l := rest)).length_le
            simp only [List.length_cons]
            omega
          simpa [hc] using fun h => hshorter (congrArg List.length h)
        · simp [hc]
  have hlast : cs.rdropWhile p = cs ↔ ∀ c, cs.getLast? = some c → p c = false := by
    rw [List.rdropWhile_eq_self_iff]
    constructor
    · intro h c hc
      have hne : cs ≠ [] := by
        rintro rfl
        cases hc
      have heq : cs.getLast hne = c := Option.some.inj ((List.getLast?_eq_some_getLast hne).symm.trans hc)
      simpa [heq] using h hne
    · intro h hne
      simpa using h _ (List.getLast?_eq_some_getLast hne)
  constructor
  · intro h
    -- neither cut drops anything, because together they do not
    have hfull : cs.length ≤ (cs.dropWhile p).length := by
      have hprefix := (List.rdropWhile_prefix p (cs.dropWhile p)).length_le
      rwa [show (cs.dropWhile p).rdropWhile p = cs from h] at hprefix
    have hdrop : cs.dropWhile p = cs := (List.dropWhile_sublist p).eq_of_length_le hfull
    have hrdrop : cs.rdropWhile p = cs := by
      have hcut : (cs.dropWhile p).rdropWhile p = cs := h
      rwa [hdrop] at hcut
    exact ⟨hfirst.1 hdrop, hlast.1 hrdrop⟩
  · rintro ⟨hhead, hend⟩
    have hcut : (cs.dropWhile p).rdropWhile p = cs := by
      rw [hfirst.2 hhead, hlast.2 hend]
    exact hcut

/-- What is trimmed has none of the characters at its ends. -/
theorem bareOf_trimOf (p : Char → Bool) (cs : List Char) : BareOf p (trimOf p cs) := by
  constructor
  · intro c hc
    -- the first character is that of the text after the cut at its front
    have hprefix : trimOf p cs <+: cs.dropWhile p := List.rdropWhile_prefix p _
    have hhead : (cs.dropWhile p).head? = some c := by
      rcases hprefix with ⟨rest, hrest⟩
      rw [← hrest]
      simp [hc]
    have hne : cs.dropWhile p ≠ [] := by
      intro hnil
      simp [hnil] at hhead
    have hnot := List.head_dropWhile_not p hne
    have heq : (cs.dropWhile p).head hne = c :=
      Option.some.inj ((List.head?_eq_some_head hne).symm.trans hhead)
    rwa [heq] at hnot
  · intro c hc
    have hne : trimOf p cs ≠ [] := by
      intro hnil
      simp [hnil] at hc
    have hnot : ¬ p ((trimOf p cs).getLast hne) = true := List.rdropWhile_last_not p _ hne
    have heq : (trimOf p cs).getLast hne = c :=
      Option.some.inj ((List.getLast?_eq_some_getLast hne).symm.trans hc)
    simpa [heq] using hnot

/-- What is dropped at the ends may stand there before. -/
theorem trimOf_around {p : Char → Bool} {before after : List Char}
    (hbefore : ∀ c ∈ before, p c = true) (hafter : ∀ c ∈ after, p c = true) (cs : List Char) :
    trimOf p (before ++ cs ++ after) = trimOf p cs := by
  have hreverse : ∀ c ∈ after.reverse, p c = true := fun c hc => hafter c (List.mem_reverse.1 hc)
  unfold trimOf
  rw [List.append_assoc, List.dropWhile_append_of_pos hbefore, List.dropWhile_append]
  cases hrest : cs.dropWhile p with
  | nil =>
      have hnone : after.dropWhile p = [] := List.dropWhile_eq_nil_iff.2 hafter
      simp [hnone]
  | cons c others =>
      rw [List.isEmpty_cons, if_neg Bool.false_ne_true, List.reverse_append,
        List.dropWhile_append_of_pos hreverse]

theorem trimOf_trimOf (p : Char → Bool) (cs : List Char) :
    trimOf p (trimOf p cs) = trimOf p cs :=
  trimOf_eq_self_iff.2 (bareOf_trimOf p cs)

end Text
end RoleAudit
