import RoleAudit.Syntax.Goal
import RoleAudit.Proofs.Syntax.Outline

/-!
# What a reader gives

A reader goes on in its source and passes nothing but comments; what it gives has a property that
the readers it is made of hand on.

- `Cursor.Onward`: one place in a source and another one that is reached from it;
- `Reads`: a reader goes on, and what it gives has a property; one rule for each way to combine
  readers;
- `Advances`, `Starts`: a reader leaves its place, and its node starts there;
- `Node.Plain`, `AllSound`: what most readers give.
-/

namespace RoleAudit
namespace Syntax

variable {α β : Type}

/-! ## Going on -/

/-- One place is not before another one, and only comments are passed between them. -/
structure Cursor.Onward (c c' : Cursor) : Prop where
  place : c.place ≤ c'.place
  comments : (∀ n ∈ c.comments, n.IsComment) → ∀ n ∈ c'.comments, n.IsComment

namespace Cursor

theorem Onward.refl (c : Cursor) : c.Onward c :=
  ⟨Nat.le_refl _, id⟩

theorem Onward.trans {a b c : Cursor} (hab : a.Onward b) (hbc : b.Onward c) : a.Onward c :=
  ⟨Nat.le_trans hab.place hbc.place, hbc.comments ∘ hab.comments⟩

theorem comments_advance (c : Cursor) (n : Nat) : (c.advance n).comments = c.comments := by
  induction n generalizing c with
  | zero => rfl
  | succ n ih =>
      unfold advance
      split
      · rfl
      · rw [ih]

theorem place_advance (c : Cursor) (n : Nat) :
    (c.advance n).place = c.place + min n c.rest.length := by
  induction n generalizing c with
  | zero => simp [advance]
  | succ n ih =>
      unfold advance
      split
      · rename_i hrest
        simp [hrest]
      · rename_i ch rest hrest
        rw [ih, hrest, List.length_cons]
        dsimp only
        omega

theorem onward_advance (c : Cursor) (n : Nat) : c.Onward (c.advance n) :=
  ⟨by rw [place_advance]; omega, by rw [comments_advance]; exact id⟩

theorem onward_passComment (c : Cursor) (length : Nat) : c.Onward (c.passComment length) := by
  refine ⟨(onward_advance c length).place, fun h n hn => ?_⟩
  rcases List.mem_cons.1 hn with rfl | hn
  · exact ⟨rfl, rfl, rfl⟩
  · exact h n hn

theorem onward_skip (fuel : Nat) (c : Cursor) : c.Onward (skip fuel c) := by
  induction fuel generalizing c with
  | zero => exact .refl c
  | succ fuel ih =>
      unfold skip
      split
      · exact (onward_passComment c _).trans (ih _)
      · exact (onward_passComment c _).trans (ih _)
      · split
        · exact (onward_advance c 1).trans (ih _)
        · exact .refl c
      · exact .refl c

/-- A token moves the place by its length, and blanks and comments move it further. -/
theorem place_advance_le_take (c : Cursor) (length : Nat) :
    c.place + min length c.rest.length ≤ (c.take length).place := by
  let stop := ({ c with fresh := false } : Cursor).advance length
  calc c.place + min length c.rest.length
      = stop.place := (place_advance { c with fresh := false } length).symm
    _ ≤ (c.take length).place :=
        (onward_skip (stop.left + 1) { stop with last := stop.place, fresh := false }).place

theorem onward_take (c : Cursor) (length : Nat) : c.Onward (c.take length) := by
  let stop := ({ c with fresh := false } : Cursor).advance length
  have hstop : ({ c with fresh := false } : Cursor).Onward stop := onward_advance _ length
  have hskip := onward_skip (stop.left + 1) { stop with last := stop.place, fresh := false }
  exact ⟨Nat.le_trans hstop.place hskip.place, fun h => hskip.comments (hstop.comments h)⟩

end Cursor

/-! ## Readers -/

/-- A reader goes on, and what it gives has a property. -/
def Reads (r : Reader α) (P : α → Prop) : Prop :=
  ∀ ⦃c a c'⦄, r.run c = some (a, c') → c.Onward c' ∧ P a

/-- A reader goes on. -/
abbrev Moves (r : Reader α) : Prop :=
  Reads r fun _ => True

/-- A reader leaves its place. -/
def Advances (r : Reader α) : Prop :=
  ∀ ⦃c a c'⦄, r.run c = some (a, c') → c.place < c'.place

/-- The node that a reader gives starts where the reader does. -/
def Starts (r : Reader Node) : Prop :=
  ∀ ⦃c n c'⦄, r.run c = some (n, c') → n.start = c.place

/-- Two steps are made one after the other. -/
theorem run_bind_eq_some {r : Reader α} {f : α → Reader β} {c c' : Cursor} {b : β} :
    (r >>= f).run c = some (b, c') ↔
      ∃ a c₁, r.run c = some (a, c₁) ∧ (f a).run c₁ = some (b, c') := by
  rw [StateT.run_bind]
  constructor
  · intro h
    rcases Option.bind_eq_some_iff.1 h with ⟨⟨a, c₁⟩, hr, hf⟩
    exact ⟨a, c₁, hr, hf⟩
  · rintro ⟨a, c₁, hr, hf⟩
    exact Option.bind_eq_some_iff.2 ⟨(a, c₁), hr, hf⟩

theorem run_pure_eq_some {a b : α} {c c' : Cursor} :
    (pure a : Reader α).run c = some (b, c') ↔ b = a ∧ c' = c := by
  constructor
  · intro h
    cases h
    exact ⟨rfl, rfl⟩
  · rintro ⟨rfl, rfl⟩
    rfl

/-- The second step is made where the first one cannot be. -/
theorem run_orElse_eq_some {r s : Reader α} {c c' : Cursor} {a : α} :
    (r <|> s).run c = some (a, c') ↔
      r.run c = some (a, c') ∨ r.run c = none ∧ s.run c = some (a, c') := by
  change (r.run c <|> s.run c) = _ ↔ _
  cases r.run c <;> simp

namespace Reads

variable {r s : Reader α} {f : α → Reader β} {P Q : α → Prop} {R : β → Prop}

theorem weaken (h : Reads r P) (hPQ : ∀ a, P a → Q a) : Reads r Q :=
  fun _ a _ hr => ⟨(h hr).1, hPQ a (h hr).2⟩

theorem moves (h : Reads r P) : Moves r :=
  h.weaken fun _ _ => trivial

protected theorem pure {a : α} (h : P a) : Reads (pure a : Reader α) P := by
  intro c b c' hr
  rcases run_pure_eq_some.1 hr with ⟨rfl, rfl⟩
  exact ⟨.refl _, h⟩

protected theorem failure : Reads (failure : Reader α) P := by
  intro c a c' hr
  cases hr

protected theorem bind (h : Reads r P) (hf : ∀ a, P a → Reads (f a) R) : Reads (r >>= f) R := by
  intro c b c' hr
  rcases run_bind_eq_some.1 hr with ⟨a, c₁, hr, hrest⟩
  rcases h hr with ⟨hfirst, ha⟩
  exact ⟨hfirst.trans (hf a ha hrest).1, (hf a ha hrest).2⟩

/-- A step whose result does not matter. -/
theorem andThen (h : Moves r) (hf : ∀ a, Reads (f a) R) : Reads (r >>= f) R :=
  h.bind fun a _ => hf a

protected theorem orElse (hr : Reads r P) (hs : Reads s P) : Reads (r <|> s) P := by
  intro c a c' h
  rcases run_orElse_eq_some.1 h with h | ⟨-, h⟩
  · exact hr h
  · exact hs h

protected theorem ite {p : Prop} [Decidable p] (hr : Reads r P) (hs : Reads s P) :
    Reads (if p then r else s) P := by
  split
  · exact hr
  · exact hs

protected theorem tried (h : Moves r) : Moves (tried r) :=
  .orElse (.andThen h fun _ => .pure trivial) (.pure trivial)

protected theorem maybe (h : Reads r P) : Reads (maybe r) fun o => ∀ a ∈ o, P a :=
  .orElse (h.bind fun a ha => .pure (by simpa using ha)) (.pure nofun)

protected theorem repeated (h : Reads r P) (n : Nat) :
    Reads (repeated r n) fun as => ∀ a ∈ as, P a := by
  induction n with
  | zero => exact .pure nofun
  | succ n ih =>
      refine h.maybe.bind fun o ho => ?_
      cases o with
      | none => exact .pure nofun
      | some a => exact ih.bind fun as has => .pure (List.forall_mem_cons.2 ⟨ho a rfl, has⟩)

protected theorem get : Moves (get : Reader Cursor) := by
  intro c a c' hr
  cases hr
  exact ⟨.refl c, trivial⟩

protected theorem modify {g : Cursor → Cursor} (h : ∀ c, Cursor.Onward c (g c)) :
    Moves (modify g : Reader Unit) := by
  intro c a c' hr
  cases hr
  exact ⟨h c, trivial⟩

protected theorem many (h : Reads r P) : Reads (many r) fun as => ∀ a ∈ as, P a :=
  .andThen .get fun _ => h.repeated _

end Reads

/-- What is true of no step, and goes on with a step, is true of all steps that are made. -/
theorem run_many_induction {r : Reader α} {S : Cursor → List α → Cursor → Prop}
    (nil : ∀ c, S c [] c)
    (cons : ∀ {c a c₁ as c'}, r.run c = some (a, c₁) → S c₁ as c' → S c (a :: as) c')
    {c : Cursor} {as : List α} {c' : Cursor} (h : (many r).run c = some (as, c')) :
    S c as c' := by
  have hrepeated : ∀ n {c as c'}, (repeated r n).run c = some (as, c') → S c as c' := by
    intro n
    induction n with
    | zero =>
        intro c as c' h
        rcases run_pure_eq_some.1 h with ⟨rfl, rfl⟩
        exact nil _
    | succ n ih =>
        intro c as c' h
        rcases run_bind_eq_some.1 h with ⟨o, c₁, hmaybe, hafter⟩
        -- one more step is made, or no further one
        rcases run_orElse_eq_some.1 hmaybe with hmade | ⟨-, hnone⟩
        · rcases run_bind_eq_some.1 hmade with ⟨a, c₂, hstep, hsome⟩
          rcases run_pure_eq_some.1 hsome with ⟨rfl, rfl⟩
          rcases run_bind_eq_some.1 hafter with ⟨rest, c₃, hrest, hall⟩
          rcases run_pure_eq_some.1 hall with ⟨rfl, rfl⟩
          exact cons hstep (ih hrest)
        · rcases run_pure_eq_some.1 hnone with ⟨rfl, rfl⟩
          rcases run_pure_eq_some.1 hafter with ⟨rfl, rfl⟩
          exact nil _
  rcases run_bind_eq_some.1 h with ⟨here, c₁, hget, hsteps⟩
  cases hget
  exact hrepeated _ hsteps

/-! ## Looking and testing -/

theorem moves_peek : Moves peek :=
  .andThen .get fun _ => .pure trivial

theorem moves_looksAt (s : String) : Moves (looksAt s) :=
  .andThen .get fun _ => .pure trivial

theorem moves_onFreshLine : Moves onFreshLine :=
  .andThen .get fun _ => .pure trivial

theorem moves_atEnd : Moves atEnd :=
  .andThen .get fun _ => .pure trivial

theorem moves_require (condition : Bool) : Moves (require condition) := by
  unfold require
  exact .ite (.pure trivial) .failure

/-- A step that is made only after a test. -/
theorem Reads.check {test : Reader β} {g : β → Bool} {r : Reader α} {P : α → Prop}
    (htest : Moves test) (h : Reads r P) : Reads (test >>= fun b => require (g b) >>= fun _ => r) P :=
  .andThen htest fun b => .andThen (moves_require (g b)) fun _ => h

theorem moves_peekWord : Moves peekWord := by
  refine .andThen .get fun c => ?_
  split
  · exact .pure trivial
  · exact .ite (.pure trivial) (.pure trivial)

theorem moves_could (r : Reader α) : Moves (could r) :=
  .andThen (.andThen .get fun _ => .pure trivial) fun _ => .pure trivial

/-! ## Tokens -/

theorem moves_take (length : Cursor → Nat) :
    Moves (modify fun c => c.take (length c) : Reader Unit) :=
  .modify fun c => Cursor.onward_take c _

theorem moves_symbol (s : String) : Moves (symbol s) :=
  .andThen (moves_looksAt s) fun _ => .ite (moves_take fun _ => s.length) .failure

theorem moves_word : Moves word := by
  refine .andThen moves_peekWord fun w => ?_
  split
  · exact .failure
  · exact .andThen (moves_take fun _ => w.length) fun _ => .pure trivial

theorem moves_keyword (w : String) : Moves (keyword w) :=
  .andThen moves_peekWord fun _ => .ite (moves_take fun _ => w.length) .failure

theorem moves_measured (length : List Char → Option Nat) : Moves (measured length) := by
  refine .andThen .get fun c => ?_
  split
  · exact moves_take fun _ => _
  · exact .failure

/-! ## Nodes -/

/-- The kinds that ask for no shape, apart from decorators. -/
def Kind.isFree : Kind → Bool
  | .classBody | .classDeclaration | .abstractClass | .method | .decorator => false
  | _ => true

theorem shapely_of_isFree {kind : Kind} (h : kind.isFree = true) (children : List Node) :
    Shapely kind children := by
  cases kind with
  | classBody => cases h
  | classDeclaration => cases h
  | abstractClass => cases h
  | method => cases h
  | _ => trivial

/-- A node over sound children in the shape of its kind. -/
theorem reads_nodeFrom {start : Cursor} {kind : Kind} {children : List Node}
    (hshape : Shapely kind children) (h : AllSound children) :
    Reads (nodeFrom start kind children) (Node.MadeAs kind) :=
  .andThen .get fun _ => .pure ⟨.mk hshape h, rfl, rfl⟩

/-- The node over what a reader passes. -/
theorem reads_spanning {kind : Kind} {r : Reader (List Node)} {P : List Node → Prop}
    (h : Reads r P) (hP : ∀ ns, P ns → Shapely kind ns ∧ AllSound ns) :
    Reads (spanning kind r) (Node.MadeAs kind) :=
  .andThen .get fun _ => h.bind fun ns hns => reads_nodeFrom (hP ns hns).1 (hP ns hns).2

namespace Reads

variable {start : Cursor} {kind : Kind} {children : List Node} {r : Reader (List Node)}

theorem plain {r : Reader Node} (h : Reads r (Node.MadeAs kind)) (hkind : kind ≠ .decorator) :
    Reads r Node.Plain :=
  h.weaken fun _ hn => ⟨hn.sound, hn.role, hn.kind ▸ hkind⟩

protected theorem nodeFrom (hkind : kind.isFree = true) (h : AllSound children) :
    Reads (nodeFrom start kind children) Node.Plain := by
  refine (reads_nodeFrom (shapely_of_isFree hkind _) h).plain fun hmark => ?_
  simp [hmark, Kind.isFree] at hkind

protected theorem spanning (hkind : kind.isFree = true) (h : Reads r AllSound) :
    Reads (spanning kind r) Node.Plain :=
  .andThen .get fun _ => h.bind fun _ hns => .nodeFrom hkind hns

protected theorem leaf {r : Reader α} (hkind : kind.isFree = true) (h : Moves r) :
    Reads (leaf kind r) Node.Plain :=
  .spanning hkind (.andThen h fun _ => .pure allSound_nil)

/-- The children that a step gives if it can be made. -/
theorem maybe_node {r : Reader Node} (h : Reads r Node.Plain) :
    Reads (maybe r) fun o => AllSound o.toList :=
  h.maybe.weaken fun _ ho n hn => (ho n (Option.mem_toList.1 hn)).sound

theorem maybe_nodes (h : Reads r AllSound) : Reads (maybe r) fun o => AllSound (o.getD []) := by
  refine h.maybe.weaken fun o ho => ?_
  cases o with
  | none => exact allSound_nil
  | some ns => exact ho ns rfl

theorem many_node {r : Reader Node} (h : Reads r Node.Plain) : Reads (many r) AllSound :=
  h.many.weaken fun _ hns n hn => (hns n hn).sound

theorem many_nodes (h : Reads r AllSound) : Reads (many r) fun parts => AllSound parts.flatten :=
  h.many.weaken fun _ => allSound_flatten

/-- One node as the only child. -/
protected theorem singleton {r : Reader Node} (h : Reads r Node.Plain) :
    Reads (do return [← r]) AllSound :=
  h.bind fun _ hn => .pure (by simp [hn.sound])

end Reads

theorem reads_stringLiteral : Reads stringLiteral Node.Plain :=
  .leaf rfl (moves_measured _)

theorem reads_numberLiteral : Reads numberLiteral Node.Plain :=
  .leaf rfl (moves_measured _)

theorem reads_regexLiteral : Reads regexLiteral Node.Plain :=
  .leaf rfl (moves_measured _)

theorem reads_privateName : Reads privateName Node.Plain :=
  .leaf rfl (moves_measured _)

theorem reads_wordNode : Reads wordNode Node.Plain :=
  .leaf rfl moves_word

/-! ## Lists between brackets -/

theorem reads_listed {item : Reader Node} (h : Reads item Node.Plain) (close : String) :
    Reads (listed item close) AllSound := by
  refine .bind (.many_nodes ?_) fun _ hitems => .andThen (moves_symbol close) fun _ => .pure hitems
  refine h.maybe.bind fun o ho => ?_
  cases o with
  | none => exact .andThen (moves_symbol ",") fun _ => .pure allSound_nil
  | some n =>
      refine .andThen (.orElse (moves_symbol ",") ?_) fun _ => .pure (by simp [(ho n rfl).sound])
      exact .andThen (moves_looksAt close) fun _ => moves_require _

theorem reads_enclosed {item : Reader Node} (h : Reads item Node.Plain) (opening close : String) :
    Reads (enclosed item opening close) AllSound :=
  .andThen (moves_symbol opening) fun _ => reads_listed h close

/-! ## Leaving a place -/

/-- A token of some length leaves its place if some text is left. -/
theorem place_lt_take {c : Cursor} {length : Nat} (hlength : 0 < length) (hrest : c.rest ≠ []) :
    c.place < (c.take length).place := by
  have htake := c.place_advance_le_take length
  have hleft : 0 < c.rest.length := List.length_pos_iff.2 hrest
  omega

theorem advances_symbol {s : String} (h : s ≠ "") : Advances (symbol s) := by
  intro c a c' hr
  change (if s.toList.isPrefixOf c.rest then
      (modify fun c : Cursor => c.take s.length : Reader Unit)
    else failure).run c = some (a, c') at hr
  split at hr
  · rename_i hprefix
    cases hr
    have hlength : 0 < s.length := Nat.pos_of_ne_zero (by simpa using h)
    refine place_lt_take hlength fun hnil => ?_
    rw [hnil, List.isPrefixOf_iff_prefix, List.prefix_nil] at hprefix
    exact h (by simpa using hprefix)
  · cases hr

theorem advances_measured {length : List Char → Option Nat}
    (h : length [] = none ∨ length [] = some 0) : Advances (measured length) := by
  intro c a c' hr
  unfold measured at hr
  rcases run_bind_eq_some.1 hr with ⟨here, c₁, hhere, hrest⟩
  cases hhere
  split at hrest
  · rename_i n hn
    cases hrest
    refine place_lt_take n.succ_pos fun hnil => ?_
    rw [hnil] at hn
    simp [hn] at h
  · cases hrest

theorem advances_word : Advances word := by
  intro c a c' hr
  rcases run_bind_eq_some.1 hr with ⟨w, c₁, hpeek, hrest⟩
  -- looking at the next word takes nothing, and a word is not empty
  have hw : c₁ = c ∧ (w ≠ "" → c.rest ≠ []) := by
    unfold peekWord at hpeek
    rcases run_bind_eq_some.1 hpeek with ⟨here, c₂, hhere, hword⟩
    cases hhere
    split at hword
    · cases hword
      exact ⟨rfl, fun h => absurd rfl h⟩
    · rename_i hcs
      split at hword
      · cases hword
        exact ⟨rfl, fun _ => by simp [hcs]⟩
      · cases hword
        exact ⟨rfl, fun h => absurd rfl h⟩
  rcases hw with ⟨rfl, hw⟩
  by_cases hne : w = ""
  · rw [if_pos (by simp [hne])] at hrest
    cases hrest
  · rw [if_neg (by simpa [String.isEmpty_iff] using hne)] at hrest
    cases hrest
    exact place_lt_take (Nat.pos_of_ne_zero (by simpa using hne)) (hw hne)

namespace Advances

variable {r s : Reader α} {f : α → Reader β} {P : β → Prop}

protected theorem orElse (hr : Advances r) (hs : Advances s) : Advances (r <|> s) := by
  intro c a c' h
  rcases run_orElse_eq_some.1 h with h | ⟨-, h⟩
  · exact hr h
  · exact hs h

/-- The first of two steps leaves the place. -/
protected theorem bind (h : Advances r) (hf : ∀ a, Reads (f a) P) : Advances (r >>= f) := by
  intro c b c' hr
  rcases run_bind_eq_some.1 hr with ⟨a, c₁, hr, hrest⟩
  exact Nat.lt_of_lt_of_le (h hr) (hf a hrest).1.place

protected theorem spanning {kind : Kind} {r : Reader (List Node)} (h : Advances r) :
    Advances (spanning kind r) := by
  intro c n c' hr
  rcases run_bind_eq_some.1 hr with ⟨start, c₁, hget, hr⟩
  rcases run_bind_eq_some.1 hr with ⟨children, c₂, hread, hnode⟩
  cases hget
  cases hnode
  exact h hread

end Advances

theorem Starts.orElse {r s : Reader Node} (hr : Starts r) (hs : Starts s) :
    Starts (r <|> s) := by
  intro c n c' h
  rcases run_orElse_eq_some.1 h with h | ⟨-, h⟩
  · exact hr h
  · exact hs h

theorem starts_spanning (kind : Kind) (r : Reader (List Node)) : Starts (spanning kind r) := by
  intro c n c' hr
  rcases run_bind_eq_some.1 hr with ⟨start, c₁, hget, hr⟩
  rcases run_bind_eq_some.1 hr with ⟨children, c₂, -, hnode⟩
  cases hget
  cases hnode
  rfl

end Syntax
end RoleAudit
