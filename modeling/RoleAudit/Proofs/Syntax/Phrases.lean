import RoleAudit.Syntax.Names
import RoleAudit.Proofs.Syntax.Reading

/-!
# Rules for phrases

Signs, templates, types, names and parameters give sound trees, if the rules for what lies inside
them do.

- `Rules.Sound`: what is asked of the rules for the parts of a source;
- `reads_method`, `name_of_method`: a method shows no decorator, and its name lies inside it;
- `starts_decorator`, `advances_decorator`: a decorator starts where it is read, and is not empty.
-/

namespace RoleAudit
namespace Syntax

/-- Rules that give sound trees and go on in their source. -/
structure Rules.Sound (rules : Rules) : Prop where
  plain : ∀ goal, goal ≠ .decorator → Reads (rules goal) Node.Plain
  group : Reads (rules .group) (Node.MadeAs .other)
  classBody : Reads (rules .classBody) (Node.MadeAs .classBody)
  decorator : Reads (rules .decorator) (Node.MadeAs .decorator)
  starts : Starts (rules .decorator)
  advances : Advances (rules .decorator)

/-- Decorators before something. -/
theorem Rules.Sound.decorators {self : Rules} (h : self.Sound) :
    Reads (many (self .decorator)) AllSound :=
  h.decorator.many.weaken fun _ hns n hn => (hns n hn).sound

theorem moves_sign (s : String) (longer : List String) : Moves (sign s longer) := by
  refine .andThen ?_ fun _ => moves_symbol s
  induction longer with
  | nil => exact .pure trivial
  | cons l longer ih =>
      rw [List.forIn_cons]
      refine .andThen (.andThen (moves_looksAt l) fun _ => ?_) fun step => ?_
      · exact .ite (.andThen .failure fun _ => .pure trivial) (.pure trivial)
      · cases step with
        | done => exact .pure trivial
        | yield => exact ih

theorem moves_startsName : Moves startsName := by
  refine .andThen moves_peek fun c => ?_
  cases c <;> exact .pure trivial

theorem moves_anySign : Moves anySign := by
  refine .andThen moves_peek fun c => ?_
  cases c with
  | none => exact .failure
  | some c => exact .andThen (moves_require _) fun _ => moves_take fun _ => 1

theorem moves_passText (length : Nat) : Moves (passText length) :=
  .modify fun c => Cursor.onward_advance c length

section Rules

variable {self : Rules} (h : self.Sound)

include h

/-! ## Signs and templates -/

theorem reads_group : Reads (group self) (Node.MadeAs .other) := by
  have hinside : ∀ opening close, Reads (group.inside self opening close) AllSound := by
    intro opening close
    refine .andThen (moves_symbol opening) fun _ => ?_
    refine .bind (.many_node (h.plain .group nofun)) fun pieces hpieces => ?_
    exact .andThen (moves_symbol close) fun _ => .pure hpieces
  refine reads_spanning (P := AllSound) ?_ fun ns hns => ⟨trivial, hns⟩
  refine .andThen (moves_looksAt _) fun _ => .ite (hinside _ _) ?_
  refine .andThen (moves_looksAt _) fun _ => .ite (hinside _ _) ?_
  refine .andThen (moves_looksAt _) fun _ => .ite (hinside _ _) ?_
  refine .andThen (moves_looksAt _) fun _ => .ite (.singleton (h.plain .template nofun)) ?_
  refine .andThen (Reads.moves (P := Node.Plain) ?_) fun _ => .pure allSound_nil
  exact reads_stringLiteral.orElse <| reads_numberLiteral.orElse <| reads_privateName.orElse <|
    reads_wordNode.orElse <| .leaf rfl moves_anySign

theorem reads_templateParts (steps : Nat) : Reads (templateParts self steps) AllSound := by
  induction steps with
  | zero => exact .failure
  | succ steps ih =>
      refine .andThen .get fun _ => .andThen (moves_passText _) fun _ => ?_
      refine .andThen (moves_looksAt _) fun _ => .ite ?_ ?_
      · exact .andThen (moves_symbol _) fun _ => .pure allSound_nil
      refine .andThen (moves_looksAt _) fun _ => .ite ?_ ?_
      · refine .andThen (moves_symbol _) fun _ => ?_
        refine (h.plain .sequence nofun).bind fun inner hinner => ?_
        refine .check (moves_looksAt _) <| ?_
        refine .andThen (moves_passText 1) fun _ => ih.bind fun parts hparts => ?_
        exact .pure (by simp [hinner.sound, hparts])
      refine .andThen .get fun _ => .ite .failure ?_
      exact .andThen (moves_looksAt _) fun _ => .andThen (moves_passText _) fun _ => ih

theorem reads_template : Reads (template self) Node.Plain := by
  refine .spanning rfl (.check (moves_looksAt _) <| ?_)
  exact .andThen (moves_passText 1) fun _ => .andThen .get fun _ => reads_templateParts h _

/-! ## Types -/

theorem reads_typeArguments : Reads (typeArguments self) Node.Plain :=
  .spanning rfl (reads_enclosed (h.plain .type nofun) _ _)

theorem reads_typeParameter : Reads (typeParameter self) Node.Plain := by
  refine .spanning rfl (.andThen (Reads.moves (.many (P := fun _ => True) ?_)) fun _ => ?_)
  · exact .andThen moves_word fun w => .andThen moves_startsName fun _ => moves_require _
  refine .andThen moves_word fun _ => ?_
  refine .bind (.maybe_node ?_) fun bound hbound => ?_
  · exact .andThen (moves_keyword _) fun _ => h.plain .type nofun
  refine .bind (.maybe_node ?_) fun standard hstandard => ?_
  · exact .andThen (moves_symbol _) fun _ => h.plain .type nofun
  exact .pure (by simp [hbound, hstandard])

theorem reads_typeParameters : Reads (typeParameters self) Node.Plain :=
  .spanning rfl (reads_enclosed (reads_typeParameter h) _ _)

theorem reads_typeMark : Reads (typeMark self) Node.Plain :=
  .spanning rfl (.andThen (moves_symbol _) fun _ => .singleton (h.plain .type nofun))

theorem reads_functionType : Reads (functionType self) AllSound := by
  refine .andThen (.moves (.maybe (h.plain .typeParameters nofun))) fun _ => ?_
  refine .check (moves_looksAt _) <| ?_
  refine (h.plain .group nofun).bind fun inputs hinputs => ?_
  refine .andThen (moves_symbol _) fun _ => ?_
  refine (h.plain .type nofun).bind fun result hresult => ?_
  exact .pure (by simp [hinputs.sound, hresult.sound])

theorem reads_typeName : Reads (typeName self) AllSound := by
  refine .andThen moves_word fun first => ?_
  extract_lets rest
  have hrest : ∀ given : Option Node, AllSound given.toList → Reads (rest given) AllSound := by
    intro given hgiven
    refine .bind (.many_node ?_) fun steps hsteps => ?_
    · refine .andThen (.orElse (moves_symbol _) (moves_symbol _)) fun _ => ?_
      exact reads_privateName.orElse reads_wordNode
    refine .bind (.maybe_node (h.plain .typeArguments nofun)) fun arguments harguments => ?_
    exact .pure (by simp [hgiven, hsteps, harguments])
  refine .ite ?_ ?_
  · exact .bind (.maybe_node (h.plain .group nofun)) hrest
  · exact hrest none allSound_nil

theorem reads_changedType {changed : Reader (List Node)} (hchanged : Reads changed AllSound)
    (w : String) : Reads (changedType self w changed) AllSound := by
  refine .orElse (.andThen (moves_keyword w) fun _ => ?_) (reads_typeName h)
  exact .check moves_onFreshLine <| hchanged

theorem reads_typeOperand (steps : Nat) : Reads (typeOperand self steps) AllSound := by
  induction steps with
  | zero =>
      rw [typeOperand.eq_def]
      exact .failure
  | succ steps ih =>
      rw [typeOperand.eq_def]
      refine .andThen moves_peek fun c => ?_
      extract_lets rest
      have hrest : ∀ base, AllSound base → Reads (rest base) AllSound := by
        intro base hbase
        refine .bind (.many_node ?_) fun suffixes hsuffixes => .pure (by simp [hbase, hsuffixes])
        refine .check moves_onFreshLine <| ?_
        refine .check (moves_looksAt _) <| ?_
        exact h.plain .group (by simp)
      have hnode : ∀ n : Node, n.Plain → Reads (pure [n] >>= rest) AllSound := fun n hn =>
        .bind (.pure (P := AllSound) (by simp [hn.sound])) hrest
      split
      · exact (Reads.orElse (reads_functionType h) (.singleton (h.plain .group (by simp)))).bind hrest
      · exact (reads_functionType h).bind hrest
      · exact (h.plain .group (by simp)).bind hnode
      · exact (h.plain .group (by simp)).bind hnode
      · exact (h.plain .template (by simp)).bind hnode
      · exact .andThen (moves_symbol _) fun _ => reads_numberLiteral.bind hnode
      · refine .bind (.orElse (.singleton reads_stringLiteral) ?_) hrest
        refine .orElse (.singleton reads_numberLiteral) (.andThen moves_peekWord fun w => ?_)
        split
        · exact .andThen (moves_keyword _) fun _ => reads_typeName h
        · exact .andThen (moves_keyword _) fun _ => reads_functionType h
        · refine .orElse (.andThen (moves_keyword _) fun _ => ?_) (reads_typeName h)
          exact .andThen (moves_keyword _) fun _ => reads_functionType h
        · refine .orElse (.andThen (moves_keyword _) fun _ => ?_) (reads_typeName h)
          refine .andThen moves_word fun _ => ?_
          refine .bind (.maybe_node ?_) fun bound hbound => .pure hbound
          exact .andThen (moves_keyword _) fun _ => h.plain .type (by simp)
        -- a word that changes a type stands before a type with fewer such words
        · exact reads_changedType h ih _
        · exact reads_changedType h ih _
        · exact reads_changedType h ih _
        · exact reads_typeName h

omit h in
theorem moves_joinsTypes : Moves joinsTypes :=
  .orElse (moves_sign _ _) (moves_sign _ _)

theorem reads_joinedTypes : Reads (joinedTypes self) AllSound := by
  refine .andThen .get fun c => .andThen (.tried moves_joinsTypes) fun _ => ?_
  refine (reads_typeOperand h _).bind fun first hfirst => ?_
  refine .bind (.many_nodes ?_) fun rest hrest => .pure (by simp [hfirst, hrest])
  exact .andThen moves_joinsTypes fun _ => reads_typeOperand h _

theorem reads_type : Reads (type self) Node.Plain := by
  have hclaim : Reads (type.claim self) AllSound := by
    refine .bind (.maybe_node ?_) fun claimed hclaimed => .pure hclaimed
    refine .check moves_onFreshLine <| ?_
    exact .andThen (moves_keyword _) fun _ => h.plain .type nofun
  refine .spanning rfl (.orElse ?_ (.orElse ?_ ?_))
  · -- what a function asserts
    refine .andThen (moves_keyword _) fun _ => .andThen moves_onFreshLine fun _ => ?_
    exact .andThen (moves_require _) fun _ => .andThen moves_word fun _ => hclaim
  · -- what it says about a parameter
    refine .andThen moves_word fun _ => .andThen moves_onFreshLine fun _ => ?_
    refine .andThen (moves_require _) fun _ => .andThen moves_peekWord fun _ => ?_
    exact .andThen (moves_require _) fun _ => hclaim
  · -- a type, or a choice between two by what it extends
    refine (reads_joinedTypes h).bind fun first hfirst => ?_
    refine .bind (.maybe_nodes ?_) fun choice hchoice => .pure (by simp [hfirst, hchoice])
    refine .check moves_onFreshLine <| ?_
    refine .andThen (moves_keyword _) fun _ => (reads_joinedTypes h).bind fun bound hbound => ?_
    refine .andThen (moves_symbol _) fun _ => (h.plain .type nofun).bind fun held hheld => ?_
    refine .andThen (moves_symbol _) fun _ => (h.plain .type nofun).bind fun other hother => ?_
    exact .pure (by simp [hbound, hheld.sound, hother.sound])

/-! ## Names and parameters -/

theorem reads_memberName : Reads (memberName self) Node.Plain := by
  refine reads_stringLiteral.orElse <| reads_numberLiteral.orElse <| reads_privateName.orElse <|
    reads_wordNode.orElse <| .spanning rfl (.andThen (moves_symbol _) fun _ => ?_)
  refine (h.plain .sequence nofun).bind fun inner hinner => ?_
  exact .andThen (moves_symbol _) fun _ => .pure (by simp [hinner.sound])

theorem reads_initializer : Reads (initializer self) Node.Plain :=
  .andThen (moves_sign _ _) fun _ => h.plain _ nofun

theorem reads_restPattern : Reads (restPattern self) Node.Plain :=
  .spanning rfl (.andThen (moves_symbol _) fun _ => .singleton (h.plain .pattern nofun))

theorem reads_patternItem : Reads (patternItem self) Node.Plain := by
  refine .spanning rfl ?_
  refine ((reads_restPattern h).orElse (h.plain .pattern nofun)).bind fun target htarget => ?_
  refine .bind (.maybe_node (reads_initializer h)) fun standard hstandard => ?_
  exact .pure (by simp [htarget.sound, hstandard])

theorem reads_patternProperty : Reads (patternProperty self) Node.Plain := by
  refine .spanning rfl ((reads_restPattern h).maybe.bind fun o ho => ?_)
  cases o with
  | some rest => exact .pure (by simp [(ho rest rfl).sound])
  | none =>
      refine (reads_memberName h).bind fun name hname => ?_
      refine .bind (.maybe_node ?_) fun target htarget => ?_
      · exact .andThen (moves_symbol _) fun _ => h.plain .pattern nofun
      refine .bind (.maybe_node (reads_initializer h)) fun standard hstandard => ?_
      exact .pure (by simp [hname.sound, htarget, hstandard])

theorem reads_pattern : Reads (pattern self) Node.Plain := by
  refine .andThen (moves_looksAt _) fun _ => .ite ?_ ?_
  · exact .spanning rfl (reads_enclosed (reads_patternProperty h) _ _)
  refine .andThen (moves_looksAt _) fun _ => .ite ?_ reads_wordNode
  exact .spanning rfl (reads_enclosed (reads_patternItem h) _ _)

theorem reads_parameter : Reads (parameter self) Node.Plain := by
  refine .andThen .get fun start => h.decorators.bind fun decorators hdecorators => ?_
  refine .andThen (Reads.moves (.many (P := fun _ => True) ?_)) fun _ => ?_
  · -- words before a parameter that are not its name
    refine .andThen moves_word fun w => .andThen (moves_require _) fun _ => ?_
    refine .andThen moves_peek fun c => ?_
    split
    · exact moves_require _
    · exact .failure
  refine ((reads_restPattern h).orElse (h.plain .pattern nofun)).bind fun target htarget => ?_
  refine .andThen (.tried (moves_symbol _)) fun loose => ?_
  refine (reads_typeMark h).maybe.bind fun type htype => ?_
  refine .bind (.maybe_node (reads_initializer h)) fun standard hstandard => ?_
  have htypes : AllSound (type.map (Node.withRole .type)).toList := by
    cases type with
    | none => exact allSound_nil
    | some n => simp [(htype n rfl).sound]
  refine .nodeFrom ?_ (by simp [hdecorators, htarget.sound, htypes, hstandard])
  cases loose <;> rfl

theorem reads_parameters : Reads (parameters self) Node.Plain :=
  .spanning rfl (reads_enclosed (reads_parameter h) _ _)

/-! ## Decorators -/

/-- A decorator is its sign and what is applied. -/
theorem exists_decorator_eq : ∃ applied : Reader (List Node),
    decorator self = spanning .decorator (symbol "@" >>= fun _ => applied) ∧
      Reads applied AllSound := by
  -- each step takes one more name behind a dot, by induction on how many there may be
  have hsteps : ∀ start length object, object.Plain →
      Reads (decorator.steps start object length) Node.Plain := by
    intro start length
    induction length with
    | zero => exact fun object hobject => .pure hobject
    | succ n ih =>
        intro object hobject
        refine .bind (.maybe (P := Node.Plain) ?_) fun o ho => ?_
        · exact .andThen (moves_symbol _) fun _ => reads_privateName.orElse reads_wordNode
        cases o with
        | none => exact .pure hobject
        | some p =>
            refine .bind (.nodeFrom rfl ?_) ih
            simp [hobject.sound, (ho p rfl).sound]
  refine ⟨_, rfl, ?_⟩
  refine .andThen (moves_looksAt _) fun _ => .ite (.singleton (h.plain .group nofun)) ?_
  refine .andThen .get fun start => reads_wordNode.bind fun first hfirst => ?_
  refine .andThen .get fun _ => ?_
  refine (hsteps _ _ first hfirst).bind fun target htarget => ?_
  refine .bind (.maybe (P := AllSound) ?_) fun called hcalled => ?_
  · refine .bind (.maybe_node (h.plain .typeArguments nofun)) fun given hgiven => ?_
    refine (h.plain .arguments nofun).bind fun arguments harguments => ?_
    exact .pure (by simp [hgiven, harguments.sound])
  cases called with
  | none => exact .pure (by simp [htarget.sound])
  | some parts => exact .singleton (.nodeFrom rfl (by simp [htarget.sound, hcalled parts rfl]))

theorem reads_decorator :
    Reads (decorator self) (Node.MadeAs .decorator) := by
  rcases exists_decorator_eq h with ⟨applied, heq, happlied⟩
  rw [heq]
  exact reads_spanning (.andThen (moves_symbol _) fun _ => happlied) fun ns hns => ⟨trivial, hns⟩

theorem advances_decorator : Advances (decorator self) := by
  rcases exists_decorator_eq h with ⟨applied, heq, happlied⟩
  rw [heq]
  exact .spanning (.bind (advances_symbol (by decide)) fun _ => happlied)

omit h in
theorem starts_decorator : Starts (decorator self) :=
  starts_spanning _ _

/-! ## Methods -/

omit h in
theorem moves_memberMark : Moves memberMark := by
  refine .andThen moves_word fun w => .andThen (moves_require _) fun _ => ?_
  refine .andThen (moves_looksAt _) fun _ => .ite (.pure trivial) ?_
  refine .check moves_onFreshLine <| ?_
  exact .andThen moves_startsName fun _ => moves_require _

omit h in
theorem starts_memberName : Starts (memberName self) :=
  .orElse (starts_spanning _ _) <| .orElse (starts_spanning _ _) <| .orElse (starts_spanning _ _) <|
    .orElse (starts_spanning _ _) (starts_spanning _ _)

theorem advances_memberName : Advances (memberName self) := by
  have hnone : ∀ u : Unit, Moves (pure [] : Reader (List Node)) := fun _ => .pure trivial
  -- a text, a number, a private name, a word, or an expression in brackets
  refine .orElse ?_ <| .orElse ?_ <| .orElse ?_ <| .orElse ?_ ?_
  · exact .spanning (.bind (advances_measured (.inl rfl)) hnone)
  · exact .spanning (.bind (advances_measured (.inr rfl)) hnone)
  · exact .spanning (.bind (advances_measured (.inl rfl)) hnone)
  · exact .spanning (.bind advances_word fun _ => hnone ())
  · refine .spanning (.bind (P := fun _ => True) (advances_symbol (by decide)) fun _ => ?_)
    exact .andThen (.moves (h.plain .sequence nofun)) fun _ =>
      .andThen (moves_symbol _) fun _ => .pure trivial

/-- The parts of a signature are sound, and none of them is a decorator. -/
theorem reads_signature :
    Reads (signature self) fun ns => ∀ n ∈ ns, n.Sound ∧ n.kind ≠ .decorator := by
  have hpart : ∀ r, Reads r Node.Plain →
      Reads (maybe r) fun o => ∀ n ∈ o.toList, n.Sound ∧ n.kind ≠ .decorator := fun r hr =>
    hr.maybe.weaken fun o ho n hn => by
      have hplain := ho n (Option.mem_toList.1 hn)
      exact ⟨hplain.sound, hplain.kind⟩
  refine (hpart _ (h.plain .typeParameters nofun)).bind fun generic hgeneric => ?_
  refine (h.plain .parameters nofun).bind fun inputs hinputs => ?_
  refine (hpart _ (reads_typeMark h)).bind fun result hresult => .pure ?_
  refine List.forall_mem_append.2 ⟨hgeneric, List.forall_mem_cons.2 ⟨?_, hresult⟩⟩
  exact ⟨hinputs.sound.withRole _, by simpa using hinputs.kind⟩

theorem reads_method :
    Reads (method self) (Node.MadeAs .method) := by
  refine reads_spanning (P := fun ns => ∀ n ∈ ns, n.Sound ∧ n.kind ≠ .decorator) ?_
    fun ns hns => ⟨fun n hn => (hns n hn).2, fun n hn => (hns n hn).1⟩
  refine .andThen (.moves (.many moves_memberMark)) fun _ => ?_
  refine .andThen (.tried (moves_symbol _)) fun _ => (reads_memberName h).bind fun name hname => ?_
  refine .andThen (.tried (moves_symbol _)) fun _ => (reads_signature h).bind fun head hhead => ?_
  refine (h.plain .block nofun).bind fun body hbody => .pure ?_
  refine List.forall_mem_cons.2 ⟨⟨hname.sound.withRole _, by simpa using hname.kind⟩, ?_⟩
  refine List.forall_mem_append.2 ⟨hhead, List.forall_mem_singleton.2 ?_⟩
  exact ⟨hbody.sound.withRole _, by simpa using hbody.kind⟩

/-- The name of a method lies inside what is read. -/
theorem face_of_method {c c' : Cursor} {n : Node} (hr : (method self).run c = some (n, c')) :
    ∃ place, n.face = ⟨.method, c.place, some place⟩ ∧ c.place ≤ place ∧ place < c'.place := by
  rcases run_bind_eq_some.1 hr with ⟨start, c₀, hget, hr⟩
  rcases run_bind_eq_some.1 hr with ⟨children, c₆, hr, hnode⟩
  rcases run_bind_eq_some.1 hr with ⟨_, c₁, hmarks, hr⟩
  rcases run_bind_eq_some.1 hr with ⟨_, c₂, hstar, hr⟩
  rcases run_bind_eq_some.1 hr with ⟨name, c₃, hname, hr⟩
  rcases run_bind_eq_some.1 hr with ⟨_, c₄, hopt, hr⟩
  rcases run_bind_eq_some.1 hr with ⟨head, c₅, hhead, hr⟩
  rcases run_bind_eq_some.1 hr with ⟨body, c₆', hbody, hr⟩
  rcases run_pure_eq_some.1 hr with ⟨rfl, rfl⟩
  cases hget
  cases hnode
  -- the name starts at the third of these places, and it is not empty
  have hbefore : c.place ≤ c₂.place :=
    Nat.le_trans (Reads.many moves_memberMark hmarks).1.place
      (Reads.tried (moves_symbol _) hstar).1.place
  have hafter : c₃.place ≤ c'.place :=
    calc c₃.place
        ≤ c₄.place := (Reads.tried (moves_symbol _) hopt).1.place
      _ ≤ c₅.place := (reads_signature h hhead).1.place
      _ ≤ c'.place := (h.plain .block nofun hbody).1.place
  have hstart : name.start = c₂.place := starts_memberName hname
  have hlength : c₂.place < c₃.place := advances_memberName h hname
  refine ⟨name.start, ?_, by omega, by omega⟩
  unfold Node.face Node.child?
  simp only [Node.children, List.cons_append]
  rw [List.find?_cons_of_pos (by simp), Option.map_some, Node.start_withRole]
  rfl

end Rules

end Syntax
end RoleAudit
