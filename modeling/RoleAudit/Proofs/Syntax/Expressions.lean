import RoleAudit.Syntax.Expressions
import RoleAudit.Proofs.Syntax.Phrases

/-!
# Rules for expressions

Expressions give sound trees, if the rules for what lies inside them do. A class is given by its
parts; the part in the role of its body is the body of a class.

- `Suffix.Sound`: what is read off a value can be put over it;
- `reads_classParts`: the parts of a class;
- `reads_operand`, `reads_expression`, `reads_sequence`: expressions.
-/

namespace RoleAudit
namespace Syntax

theorem reads_valueName : Reads valueName Node.Plain :=
  .check moves_peekWord <| reads_wordNode

theorem reads_propertyName : Reads propertyName Node.Plain :=
  reads_privateName.orElse reads_wordNode

theorem moves_closesTypeArguments : Moves closesTypeArguments := by
  refine .andThen moves_peek fun c => ?_
  split
  · exact .andThen moves_onFreshLine fun _ => .andThen moves_peekWord fun _ => .pure trivial
  · exact .pure trivial

theorem moves_before : Moves before :=
  .orElse (moves_symbol _) <| .orElse (moves_symbol _) <| .orElse (moves_symbol _) <|
    .orElse (moves_symbol _) <| .orElse (moves_symbol _) <| .orElse (moves_symbol _) <|
    .orElse (moves_keyword _) <| .orElse (moves_keyword _) <| .orElse (moves_keyword _)
    (moves_keyword _)

theorem moves_joiner : Moves joiner := by
  refine .andThen (moves_looksAt _) fun _ => ?_
  extract_lets rest
  have hrest : ∀ u, Moves (rest u) := by
    intro u
    refine .andThen .get fun c => ?_
    extract_lets left
    split
    · exact moves_symbol _
    · exact .orElse (moves_sign _ _) <| .orElse (moves_keyword _) (moves_keyword _)
  exact .ite (.andThen .failure hrest) (hrest ())

/-- What follows a value makes a sound node over it. -/
def Suffix.Sound : Suffix → Prop
  | .goesOn kind _ parts => kind.isFree = true ∧ AllSound parts
  | .ends parts => AllSound parts

section Rules

variable {self : Rules} (h : self.Sound)

include h

/-! ## Functions -/

theorem reads_arrowBody (typed : Bool) : Reads (arrowBody self typed) Node.Plain := by
  refine .check moves_onFreshLine <| ?_
  refine .andThen (moves_symbol _) fun _ => .andThen (moves_looksAt _) fun _ => ?_
  exact .ite ((h.plain .block nofun).orElse (h.plain _ nofun)) (h.plain _ nofun)

theorem reads_arrow (typed : Bool) : Reads (arrow self typed) Node.Plain := by
  have hrest : Reads (arrow.rest self typed) AllSound := by
    refine .orElse ?_ ?_
    · -- one name, or parameters in brackets with what is said about types
      refine reads_valueName.bind fun name hname => ?_
      refine (reads_arrowBody h typed).bind fun body hbody => ?_
      exact .pure (by simp [hname.sound, hbody.sound])
    refine .bind (.maybe_node (h.plain .typeParameters nofun)) fun generic hgeneric => ?_
    refine (h.plain .parameters nofun).bind fun inputs hinputs => ?_
    extract_lets whole
    have hwhole : ∀ result : Option Node, AllSound result.toList →
        Reads (whole result) AllSound := by
      intro result hresult
      refine (reads_arrowBody h typed).bind fun body hbody => ?_
      exact .pure (by simp [hgeneric, hinputs.sound, hresult, hbody.sound])
    exact .ite (.bind (.maybe_node (reads_typeMark h)) hwhole) (hwhole none allSound_nil)
  refine .spanning rfl (.orElse (.andThen (moves_keyword _) fun _ => ?_) hrest)
  exact .check moves_onFreshLine <| hrest

/-- The parts of a signature as children. -/
theorem reads_signature_sound : Reads (signature self) AllSound :=
  (reads_signature h).weaken fun _ hns n hn => (hns n hn).1

theorem reads_functionExpression : Reads (functionExpression self) Node.Plain := by
  refine .spanning rfl (.andThen (.tried (moves_keyword _)) fun _ => ?_)
  refine .andThen (moves_keyword _) fun _ => .andThen (.tried (moves_symbol _)) fun _ => ?_
  refine .andThen (.moves (.maybe reads_wordNode)) fun _ => ?_
  refine (reads_signature_sound h).bind fun head hhead => ?_
  refine (h.plain .block nofun).bind fun body hbody => ?_
  exact .pure (by simp [hhead, hbody.sound])

/-! ## Literals -/

theorem reads_spread : Reads (spread self) Node.Plain :=
  .spanning rfl (.andThen (moves_symbol _) fun _ => .singleton (h.plain _ nofun))

theorem reads_element : Reads (element self) Node.Plain :=
  (reads_spread h).orElse (h.plain _ nofun)

theorem reads_arguments : Reads (arguments self) Node.Plain :=
  .spanning rfl (reads_enclosed (reads_element h) _ _)

theorem reads_objectMember : Reads (objectMember self) Node.Plain := by
  refine (reads_spread h).orElse (.orElse ((reads_method h).plain nofun) (.spanning rfl ?_))
  refine (reads_memberName h).bind fun name hname => ?_
  refine .bind (P := AllSound) (.orElse ?_ ?_) fun value hvalue => ?_
  · exact .andThen (moves_symbol _) fun _ => .singleton (h.plain _ nofun)
  · exact .bind (.maybe_node (reads_initializer h)) fun value hvalue => .pure hvalue
  exact .pure (by simp [hname.sound, hvalue])

theorem reads_object : Reads (object self) Node.Plain :=
  .spanning rfl (reads_enclosed (reads_objectMember h) _ _)

theorem reads_array : Reads (array self) Node.Plain :=
  .spanning rfl (reads_enclosed (reads_element h) _ _)

theorem reads_bracketed : Reads (bracketed self) Node.Plain := by
  refine .spanning rfl (.andThen (moves_symbol _) fun _ => ?_)
  refine (h.plain .sequence nofun).bind fun inner hinner => ?_
  refine .bind (.maybe_node (reads_typeMark h)) fun type htype => ?_
  exact .andThen (moves_symbol _) fun _ => .pure (by simp [hinner.sound, htype])

/-! ## Classes -/

/-- What a class extends and implements: nodes by themselves. -/
theorem reads_heritage : Reads (heritage self) fun ns => ∀ n ∈ ns, n.Plain := by
  have hgiven : ∀ {o : Option (List Node)}, (∀ ns ∈ o, ∀ n ∈ ns, n.Plain) →
      ∀ n ∈ o.getD [], n.Plain := by
    intro o ho
    cases o with
    | none => exact nofun
    | some ns => exact ho ns rfl
  refine .bind (.maybe (P := fun ns => ∀ n ∈ ns, n.Plain) ?_) fun base hbase => ?_
  · refine .andThen (moves_keyword _) fun _ => ?_
    -- the class that is extended is an expression, and what is implemented are types
    refine (h.plain (.operand true) nofun).bind fun first hfirst => ?_
    refine (h.plain .typeArguments nofun).maybe.bind fun given hgiven => .pure ?_
    exact List.forall_mem_cons.2 ⟨hfirst, fun n hn => hgiven n (Option.mem_toList.1 hn)⟩
  refine .bind (.maybe (P := fun ns => ∀ n ∈ ns, n.Plain) ?_) fun shapes hshapes => ?_
  · refine .andThen (moves_keyword _) fun _ => (h.plain .type nofun).bind fun first hfirst => ?_
    refine .bind (.many (P := Node.Plain) ?_) fun rest hrest => ?_
    · exact .andThen (moves_symbol _) fun _ => h.plain .type nofun
    exact .pure (List.forall_mem_cons.2 ⟨hfirst, hrest⟩)
  exact .pure (List.forall_mem_append.2 ⟨hgiven hbase, hgiven hshapes⟩)

/-- A sound node that is the body of a class if it is a body. -/
theorem reads_classParts : Reads (classParts self) fun ns =>
    ∀ n ∈ ns, n.Sound ∧ (n.role = .body → n.kind = .classBody) := by
  have hplain : ∀ {n : Node}, n.Plain → n.Sound ∧ (n.role = .body → n.kind = .classBody) :=
    fun hn => ⟨hn.sound, fun hrole => by simp [hn.role] at hrole⟩
  refine .andThen (moves_keyword _) fun _ => ?_
  refine .bind (.maybe (P := Node.Plain) ?_) fun name hname => ?_
  · refine .andThen moves_peekWord fun w => .andThen (moves_could _) fun _ => ?_
    exact .andThen (moves_require _) fun _ => reads_wordNode
  refine (h.plain .typeParameters nofun).maybe.bind fun generic hgeneric => ?_
  refine (reads_heritage h).bind fun above habove => ?_
  intro c ns c' hr
  rcases run_bind_eq_some.1 hr with ⟨body, c₁, hbody, hr⟩
  rcases run_pure_eq_some.1 hr with ⟨rfl, rfl⟩
  -- the other parts are in no role or in that of a name
  have hsound := h.plain .classBody nofun hbody
  refine ⟨hsound.1, ?_⟩
  simp only [List.forall_mem_append, List.forall_mem_singleton]
  refine ⟨⟨⟨?_, fun n hn => hplain (hgeneric n (Option.mem_toList.1 hn))⟩,
    fun n hn => hplain (habove n hn)⟩, hsound.2.sound.withRole _, fun _ => ?_⟩
  · cases name with
    | none => exact nofun
    | some name => simpa using (hname name rfl).sound
  · simpa using (h.classBody hbody).2.kind

theorem reads_classExpression : Reads (classExpression self) Node.Plain := by
  refine .spanning rfl (h.decorators.bind fun decorators hdecorators => ?_)
  refine (reads_classParts h).bind fun parts hparts => .pure ?_
  exact (allSound_append _ _).2 ⟨hdecorators, fun n hn => (hparts n hn).1⟩

/-! ## What is read off a value -/

theorem reads_callParts {given : Option Node} (hgiven : AllSound given.toList) :
    Reads (callParts self given) Suffix.Sound := by
  refine .bind (.orElse (h.plain .arguments nofun) (h.plain .template nofun)) fun n hn => ?_
  exact .pure ⟨rfl, by simp [hgiven, hn.sound]⟩

theorem reads_index : Reads (index self) Suffix.Sound := by
  refine .andThen (moves_symbol _) fun _ => (h.plain .sequence nofun).bind fun inner hinner => ?_
  exact .andThen (moves_symbol _) fun _ => .pure ⟨rfl, by simp [hinner.sound]⟩

theorem reads_suffix (calls : Bool) : Reads (suffix self calls) Suffix.Sound := by
  have hproperty : Reads (do
      let name ← propertyName
      return Suffix.goesOn .member .object [name.withRole .property]) Suffix.Sound :=
    reads_propertyName.bind fun name hname => .pure ⟨rfl, by simp [hname.sound]⟩
  -- a name, an index, a mark, or what follows only where calls are read
  refine .orElse (.andThen (moves_sign _ _) fun _ => hproperty) <| .orElse (reads_index h) <|
    .orElse ?_ (.andThen (moves_require _) fun _ => .orElse ?_ <|
      .orElse (reads_callParts h allSound_nil) <| .orElse ?_ ?_)
  · refine .check moves_onFreshLine <| ?_
    exact .andThen (moves_sign _ _) fun _ => .pure ⟨rfl, allSound_nil⟩
  · refine .andThen (moves_symbol _) fun _ => .andThen moves_peek fun c => ?_
    extract_lets rest
    have hrest : ∀ u, Reads (rest u) Suffix.Sound := by
      intro u
      refine .orElse ?_ (.orElse (reads_index h) hproperty)
      exact .bind (.maybe_node (h.plain .typeArguments nofun)) fun given => reads_callParts h
    split
    · exact .andThen (moves_require _) hrest
    · exact .andThen .failure hrest
  · refine (h.plain .typeArguments nofun).bind fun given hgiven => ?_
    refine .orElse (reads_callParts h (by simp [hgiven.sound])) ?_
    refine .check moves_closesTypeArguments <| ?_
    exact .pure ⟨rfl, by simp [hgiven.sound]⟩
  · refine .check moves_onFreshLine <| ?_
    exact .andThen (.orElse (moves_symbol _) (moves_symbol _)) fun _ => .pure allSound_nil

theorem reads_suffixes (calls : Bool) (start : Cursor) (steps : Nat) {value : Node}
    (hvalue : value.Plain) : Reads (suffixes self calls start steps value) Node.Plain := by
  induction steps generalizing value with
  | zero => exact .pure hvalue
  | succ steps ih =>
      refine (reads_suffix h calls).maybe.bind fun o ho => ?_
      match o, ho with
      | none, _ => exact .pure hvalue
      | some (.ends parts), ho =>
          have hparts : AllSound parts := ho _ rfl
          exact .nodeFrom rfl (by simp [hvalue.sound, hparts])
      | some (.goesOn kind role parts), ho =>
          have hparts : kind.isFree = true ∧ AllSound parts := ho _ rfl
          exact .bind (.nodeFrom hparts.1 (by simp [hvalue.sound, hparts.2])) fun _ => ih

theorem reads_primary : Reads (primary self) Node.Plain := by
  refine .andThen moves_peek fun c => ?_
  split
  · exact .failure
  refine .ite (reads_bracketed h) <| .ite (reads_array h) <| .ite (reads_object h) <|
    .ite (h.plain .template nofun) <| .ite reads_stringLiteral <| .ite reads_regexLiteral <|
    .ite reads_privateName <| .ite (reads_classExpression h) <| .ite reads_numberLiteral <|
    .andThen moves_peekWord fun w => ?_
  split
  · exact .leaf rfl moves_word
  · exact .leaf rfl moves_word
  · exact reads_wordNode
  · exact reads_classExpression h
  · exact reads_functionExpression h
  · exact (reads_functionExpression h).orElse reads_wordNode
  · exact reads_valueName

theorem reads_constructed (steps : Nat) : Reads (constructed self steps) Node.Plain := by
  induction steps with
  | zero => exact .failure
  | succ steps ih =>
      refine .andThen .get fun start => .andThen (moves_keyword _) fun _ => ?_
      refine .andThen .get fun _ => ?_
      extract_lets length rest
      -- what is constructed may have no arguments at all
      have hrest : ∀ target : Node, target.Plain → Reads (rest target) Node.Plain := by
        intro target htarget
        refine .bind (.maybe_node (h.plain .typeArguments nofun)) fun given hgiven => ?_
        refine (h.plain .arguments nofun).maybe.bind fun arguments harguments => ?_
        have hlast : AllSound (arguments.map (Node.withRole .arguments)).toList := by
          cases arguments with
          | none => exact allSound_nil
          | some n => simp [(harguments n rfl).sound]
        exact .nodeFrom rfl (by simp [htarget.sound, hgiven, hlast])
      refine .andThen (moves_looksAt _) fun _ => .ite ?_ ?_
      · -- a dot after the word makes it a name of its own
        refine .andThen (moves_symbol _) fun _ => reads_propertyName.bind fun name hname => ?_
        exact .nodeFrom rfl (by simp [hname.sound])
      · refine .andThen .get fun inside => .andThen moves_peekWord fun w => .ite (ih.bind hrest) ?_
        refine (reads_primary h).bind fun first hfirst => ?_
        exact (reads_suffixes h _ _ _ hfirst).bind hrest

/-! ## Operands and chains -/

theorem reads_operand (typed : Bool) : Reads (operand self typed) Node.Plain := by
  -- a sign before a value, a yield, an arrow, a cast, or a value with what is read off it
  refine .orElse (.spanning rfl (.andThen moves_before fun _ => .singleton (h.plain _ nofun))) <|
    .orElse (.spanning rfl (.andThen (moves_keyword _) fun _ => ?_)) <|
    .orElse (reads_arrow h typed) <|
    .orElse (.spanning rfl (.andThen (moves_symbol _) fun _ => ?_)) ?_
  · refine .andThen moves_onFreshLine fun _ => .ite (.pure allSound_nil) ?_
    refine .andThen (.tried (moves_symbol _)) fun _ => ?_
    exact .bind (.maybe_node (h.plain _ nofun)) fun value hvalue => .pure hvalue
  · refine (h.plain .type nofun).bind fun type htype => .andThen (moves_symbol _) fun _ => ?_
    refine (h.plain (.operand typed) nofun).bind fun value hvalue => ?_
    exact .pure (by simp [htype.sound, hvalue.sound])
  · refine .andThen .get fun start => .andThen moves_peekWord fun w => ?_
    extract_lets rest
    have hrest : ∀ first : Node, first.Plain → Reads (rest first) Node.Plain :=
      fun first hfirst => reads_suffixes h _ _ _ hfirst
    exact .ite ((reads_constructed h _).bind hrest) ((reads_primary h).bind hrest)

theorem reads_continuation (typed : Bool) : Reads (continuation self typed) AllSound := by
  have hchosen : ∀ b, Reads (continuation.chosen self b) Node.Plain := fun b =>
    (h.plain (.expression b) nofun).bind fun held hheld =>
      .andThen (moves_symbol _) fun _ => .pure hheld
  refine .orElse ?_ (.orElse ?_ ?_)
  · refine .andThen (moves_sign _ _) fun _ => ?_
    refine ((hchosen true).orElse (hchosen false)).bind fun held hheld => ?_
    refine (h.plain (.expression typed) nofun).bind fun other hother => ?_
    exact .pure (by simp [hheld.sound, hother.sound])
  · refine .check moves_onFreshLine <| ?_
    refine .andThen (.orElse (moves_keyword _) (moves_keyword _)) fun _ => ?_
    exact .singleton (h.plain .type nofun)
  · exact .andThen moves_joiner fun _ => .singleton (h.plain _ nofun)

theorem reads_expression (typed : Bool) : Reads (expression self typed) Node.Plain := by
  refine .andThen .get fun start => (h.plain (.operand typed) nofun).bind fun first hfirst => ?_
  refine .bind (.many_nodes (reads_continuation h typed)) fun rest hrest => ?_
  split
  · exact .pure hfirst
  · exact .nodeFrom rfl (by simp [hfirst.sound, hrest])

theorem reads_sequence : Reads (sequence self) Node.Plain := by
  refine .andThen .get fun start => (reads_element h).bind fun first hfirst => ?_
  refine .bind (.many_node ?_) fun rest hrest => ?_
  · exact .andThen (moves_symbol _) fun _ => reads_element h
  split
  · exact .pure hfirst
  · exact .nodeFrom rfl (by simp [hfirst.sound, hrest])

end Rules

end Syntax
end RoleAudit
