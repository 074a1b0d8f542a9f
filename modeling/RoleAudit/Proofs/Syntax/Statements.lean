import RoleAudit.Syntax.Source
import RoleAudit.Proofs.Syntax.ClassBodies

/-!
# Rules for statements and sources

Statements give sound trees, if the rules for what lies inside them do. With that all rules are
sound, to any depth, and so is the tree of every source.

- `reads_classDeclaration`, `reads_exportStatement`: a class, and the export that holds it;
- `reads_proper`: statements;
- `sound_reader`: the rules are sound, by induction on the depth;
- `sound_ofSource`: the tree of a source is sound, with its comments.
-/

namespace RoleAudit
namespace Syntax

theorem moves_semicolon : Moves semicolon :=
  .andThen (.tried (moves_symbol _)) fun _ => .pure trivial

theorem reads_ended {r : Reader (List Node)} (hr : Reads r AllSound) : Reads (ended r) AllSound :=
  hr.bind fun _ hns => .andThen moves_semicolon fun _ => .pure hns

/-! ## Imports and exports -/

/-- A word or a text in the place of a name. -/
theorem reads_given : Reads (stringLiteral <|> wordNode) Node.Plain :=
  reads_stringLiteral.orElse reads_wordNode

theorem reads_specifier : Reads specifier Node.Plain := by
  have hclosed : Moves specifier.closed :=
    .andThen (moves_looksAt _) fun _ => .andThen (moves_looksAt _) fun _ => moves_require _
  have hnames : Reads specifier.names AllSound := by
    refine .orElse ?_ ?_
    · refine reads_given.bind fun name hname => .andThen (moves_keyword _) fun _ => ?_
      refine reads_given.bind fun newName hnewName => .andThen hclosed fun _ => ?_
      exact .pure (by simp [hname.sound, hnewName.sound])
    · refine reads_given.bind fun name hname => .andThen hclosed fun _ => ?_
      exact .pure (by simp [hname.sound])
  refine .spanning rfl (.orElse ?_ hnames)
  exact .andThen (.orElse (moves_keyword _) (moves_keyword _)) fun _ => hnames

theorem reads_specifiers : Reads specifiers Node.Plain :=
  .spanning rfl (reads_enclosed reads_specifier _ _)

theorem reads_everything : Reads everything Node.Plain := by
  refine .spanning rfl (.andThen (moves_symbol _) fun _ => ?_)
  exact .andThen (moves_keyword _) fun _ => .singleton reads_given

theorem reads_importClause : Reads importClause Node.Plain := by
  have htaken : Reads (everything <|> specifiers) Node.Plain :=
    reads_everything.orElse reads_specifiers
  refine .spanning rfl (.orElse (.singleton htaken) ?_)
  refine reads_wordNode.bind fun standard hstandard => ?_
  refine .bind (.maybe_node ?_) fun more hmore => .pure (by simp [hstandard.sound, hmore])
  exact .andThen (moves_symbol _) fun _ => htaken

theorem reads_fromSource : Reads fromSource Node.Sound := by
  refine .andThen (moves_keyword _) fun _ => reads_stringLiteral.bind fun source hsource => ?_
  exact .pure (hsource.sound.withRole _)

theorem reads_importAlias : Reads importAlias Node.Plain := by
  refine .spanning rfl (reads_ended (.andThen (moves_keyword _) fun _ => ?_))
  refine reads_wordNode.bind fun name hname => .andThen (moves_symbol _) fun _ => ?_
  refine reads_wordNode.bind fun first hfirst => ?_
  refine .bind (.many_node ?_) fun rest hrest => ?_
  · exact .andThen (moves_symbol _) fun _ => reads_wordNode
  exact .pure (by simp [hname.sound, hfirst.sound, hrest])

section Rules

variable {self : Rules} (h : self.Sound)

include h

theorem reads_block : Reads (block self) Node.Plain := by
  refine .spanning rfl (.andThen (moves_symbol _) fun _ => ?_)
  refine .bind (.many_node (h.plain .statement nofun)) fun inner hinner => ?_
  exact .andThen (moves_symbol _) fun _ => .pure hinner

theorem reads_condition : Reads (condition self) Node.Plain := by
  refine .andThen (moves_symbol _) fun _ => (h.plain .sequence nofun).bind fun inner hinner => ?_
  exact .andThen (moves_symbol _) fun _ => .pure hinner

/-- What a source is asked for besides the names. -/
theorem reads_attributes : Reads (maybe do
    keyword "with" <|> keyword "assert"
    self .group) fun o => AllSound o.toList :=
  .maybe_node (.andThen (.orElse (moves_keyword _) (moves_keyword _)) fun _ =>
    h.plain .group nofun)

theorem reads_importStatement : Reads (importStatement self) Node.Plain := by
  have htaken : Reads importStatement.taken AllSound := by
    refine reads_importClause.bind fun clause hclause => ?_
    exact reads_fromSource.bind fun source hsource => .pure (by simp [hclause.sound, hsource])
  have hrequired : Reads importStatement.required AllSound := by
    refine .bind (.spanning rfl ?_) fun clause hclause => .pure (by simp [hclause.sound])
    refine reads_wordNode.bind fun name hname => .andThen (moves_symbol _) fun _ => ?_
    refine .andThen (moves_keyword _) fun _ => .andThen (moves_symbol _) fun _ => ?_
    refine reads_stringLiteral.bind fun source hsource => .andThen (moves_symbol _) fun _ => ?_
    exact .pure (by simp [hname.sound, hsource.sound])
  refine .spanning rfl (reads_ended (.andThen (moves_keyword _) fun _ => ?_))
  refine .bind (P := AllSound) ?_ fun parts hparts => ?_
  · -- the word for types, names, a required source, both together, or a source alone
    refine .orElse ?_ <| .orElse htaken <| .orElse hrequired <| .orElse ?_ ?_
    · exact .andThen (.orElse (moves_keyword _) (moves_keyword _)) fun _ => htaken
    · exact .andThen (moves_keyword _) fun _ => hrequired
    · exact reads_stringLiteral.bind fun source hsource => .pure (by simp [hsource.sound])
  refine (reads_attributes h).bind fun attributes hattributes => ?_
  exact .pure (by simp [hparts, hattributes])

/-! ## Declarations -/

theorem reads_classDeclaration {start : Cursor} {decorators : List Node}
    (hdecorators : ∀ n ∈ decorators, n.MadeAs .decorator) :
    Reads (classDeclaration self start decorators) Node.Plain := by
  refine .andThen (.tried ?_) fun isAbstract => ?_
  · exact .andThen (moves_keyword _) fun _ => .andThen moves_peekWord fun _ => moves_require _
  refine (reads_classParts h).bind fun parts hparts => .andThen (moves_require _) fun _ => ?_
  -- decorators are in no role, so the only body is the one among the parts
  have hbody : ∀ n ∈ decorators ++ parts, n.role = .body → n.kind = .classBody := by
    refine List.forall_mem_append.2 ⟨fun n hn hrole => ?_, fun n hn => (hparts n hn).2⟩
    simp [(hdecorators n hn).role] at hrole
  have hsound : AllSound (decorators ++ parts) :=
    (allSound_append _ _).2 ⟨fun n hn => (hdecorators n hn).sound, fun n hn => (hparts n hn).1⟩
  refine (reads_nodeFrom ?_ hsound).plain ?_
  · cases isAbstract <;> exact hbody
  · cases isAbstract <;> nofun

/-- A class without decorators. -/
theorem reads_classDeclaration_nil (start : Cursor) :
    Reads (classDeclaration self start []) Node.Plain :=
  reads_classDeclaration h nofun

theorem reads_functionDeclaration : Reads (functionDeclaration self) Node.Plain := by
  refine .spanning rfl (.andThen (.tried ?_) fun _ => .andThen (moves_keyword _) fun _ => ?_)
  · exact .andThen (moves_keyword _) fun _ => .andThen moves_onFreshLine fun _ => moves_require _
  refine .andThen (.tried (moves_symbol _)) fun _ => ?_
  refine .bind (.maybe_node reads_wordNode) fun name hname => ?_
  refine (reads_signature_sound h).bind fun head hhead => ?_
  refine .bind (.maybe_node (h.plain .block nofun)) fun body hbody => ?_
  exact .andThen moves_semicolon fun _ => .pure (by simp [hname, hhead, hbody])

theorem reads_binding : Reads (binding self) Node.Plain := by
  refine .spanning rfl ((h.plain .pattern nofun).bind fun target htarget => ?_)
  refine .andThen (.tried (moves_symbol _)) fun _ => ?_
  refine .bind (.maybe_node (reads_typeMark h)) fun type htype => ?_
  refine .bind (.maybe_node (reads_initializer h)) fun value hvalue => ?_
  exact .pure (by simp [htarget.sound, htype, hvalue])

theorem reads_variableList : Reads (variableList self) AllSound := by
  refine .andThen (.orElse (moves_keyword _) (.orElse (moves_keyword _) (moves_keyword _)))
    fun _ => (reads_binding h).bind fun first hfirst => ?_
  refine .bind (.many_node ?_) fun rest hrest => .pure (by simp [hfirst.sound, hrest])
  exact .andThen (moves_symbol _) fun _ => reads_binding h

/-- Variables as a statement. -/
theorem reads_variables : Reads (spanning .other (ended (variableList self))) Node.Plain :=
  .spanning rfl (reads_ended (reads_variableList h))

theorem reads_typeAlias : Reads (typeAlias self) Node.Plain := by
  refine .spanning rfl (reads_ended (.andThen (moves_keyword _) fun _ => ?_))
  refine reads_wordNode.bind fun name hname => ?_
  refine .bind (.maybe_node (h.plain .typeParameters nofun)) fun generic hgeneric => ?_
  refine .andThen (moves_symbol _) fun _ => (h.plain .type nofun).bind fun type htype => ?_
  exact .pure (by simp [hname.sound, hgeneric, htype.sound])

theorem reads_interface : Reads (interface self) Node.Plain := by
  refine .spanning rfl (.andThen (moves_keyword _) fun _ => ?_)
  refine reads_wordNode.bind fun name hname => ?_
  refine .bind (.maybe_node (h.plain .typeParameters nofun)) fun generic hgeneric => ?_
  refine .bind (.maybe_nodes ?_) fun above habove => ?_
  · refine .andThen (moves_keyword _) fun _ => (h.plain .type nofun).bind fun first hfirst => ?_
    refine .bind (.many_node ?_) fun rest hrest => .pure (by simp [hfirst.sound, hrest])
    exact .andThen (moves_symbol _) fun _ => h.plain .type nofun
  refine .check (moves_looksAt _) <| ?_
  refine (h.plain .group nofun).bind fun body hbody => ?_
  exact .pure (by simp [hname.sound, hgeneric, habove, hbody.sound])

theorem reads_enumMember : Reads (enumMember self) Node.Plain := by
  refine .spanning rfl ((reads_memberName h).bind fun name hname => ?_)
  refine .bind (.maybe_node (reads_initializer h)) fun value hvalue => ?_
  exact .pure (by simp [hname.sound, hvalue])

theorem reads_enumeration : Reads (enumeration self) Node.Plain := by
  refine .spanning rfl (.andThen (.tried (moves_keyword _)) fun _ => ?_)
  refine .andThen (moves_keyword _) fun _ => reads_wordNode.bind fun name hname => ?_
  refine (reads_enclosed (reads_enumMember h) _ _).bind fun members hmembers => ?_
  exact .pure (by simp [hname.sound, hmembers])

theorem reads_space : Reads (space self) Node.Plain := by
  refine .spanning rfl (.andThen (.orElse (moves_keyword _) (moves_keyword _)) fun _ => ?_)
  refine .check moves_onFreshLine <| ?_
  refine reads_given.bind fun first hfirst => ?_
  refine .bind (.many_node ?_) fun rest hrest => ?_
  · exact .andThen (moves_symbol _) fun _ => reads_wordNode
  refine .bind (.maybe_node (h.plain .block nofun)) fun body hbody => ?_
  exact .andThen moves_semicolon fun _ => .pure (by simp [hfirst.sound, hrest, hbody])

theorem reads_ambient : Reads (ambient self) Node.Plain := by
  have hdeclared : Reads (ambient.declared self) Node.Plain := by
    refine .andThen .get fun start => .andThen moves_peekWord fun w => ?_
    -- whatever is declared is read by the rule for its first word
    split
    · exact reads_classDeclaration_nil h _
    · exact reads_classDeclaration_nil h _
    · exact reads_functionDeclaration h
    · exact reads_functionDeclaration h
    · exact reads_interface h
    · exact reads_typeAlias h
    · exact reads_space h
    · exact reads_space h
    · exact reads_enumeration h
    · exact (reads_enumeration h).orElse (reads_variables h)
    · exact reads_variables h
    · exact reads_variables h
    · exact .failure
  refine .spanning rfl (.andThen (moves_keyword _) fun _ => ?_)
  refine .check moves_onFreshLine <| ?_
  refine .andThen moves_peekWord fun w => .ite ?_ (.singleton hdeclared)
  exact .andThen (moves_keyword _) fun _ => .singleton (h.plain .block nofun)

theorem reads_exportStatement (start : Cursor) {decorators : List Node}
    (hdecorators : AllSound decorators) :
    Reads (exportStatement self start decorators) Node.Plain := by
  have hexported : Reads exportStatement.exported Node.Plain := by
    refine .spanning rfl (reads_given.bind fun first hfirst => ?_)
    exact .bind (.many_node reads_given) fun rest hrest => .pure (by simp [hfirst.sound, hrest])
  have hsource : Reads (maybe fromSource) fun o => AllSound o.toList :=
    reads_fromSource.maybe.weaken fun o ho n hn => ho n (Option.mem_toList.1 hn)
  have htaken : Reads (exportStatement.taken self) AllSound := by
    refine reads_ended (.orElse ?_ ?_)
    · refine (reads_everything.orElse (.leaf rfl (moves_symbol _))).bind fun all hall => ?_
      exact reads_fromSource.bind fun source hsource => .pure (by simp [hall.sound, hsource])
    · refine .bind (.spanning rfl (reads_enclosed hexported _ _)) fun names hnames => ?_
      refine hsource.bind fun source hsource => ?_
      refine (reads_attributes h).bind fun attributes hattributes => ?_
      exact .pure (by simp [hnames.sound, hsource, hattributes])
  have hdeclaration : Reads (exportStatement.declaration self) Node.Plain := by
    refine .andThen .get fun here => h.decorator.many.bind fun marks hmarks => ?_
    refine .andThen moves_peekWord fun w => ?_
    split
    · exact reads_classDeclaration h hmarks
    · exact reads_classDeclaration h hmarks
    · exact reads_interface h
    · exact reads_functionDeclaration h
    · exact reads_functionDeclaration h
    · exact .failure
  refine .andThen (moves_keyword _) fun _ => .bind (P := AllSound) ?_ fun parts hparts => ?_
  · -- names, a namespace, a value, a standard value, or a statement
    refine .orElse (.andThen (.tried (moves_keyword _)) fun _ => htaken) <| .orElse ?_ <|
      .orElse ?_ <| .orElse ?_ (.singleton (h.plain .statement nofun))
    · refine .andThen (moves_keyword _) fun _ => .andThen (moves_keyword _) fun _ => ?_
      exact reads_ended (.singleton reads_wordNode)
    · exact .andThen (moves_symbol _) fun _ => reads_ended (.singleton (h.plain .sequence nofun))
    · refine .andThen (moves_keyword _) fun _ => .orElse (.singleton hdeclaration) ?_
      exact reads_ended (.singleton (h.plain (.expression true) nofun))
  exact .nodeFrom rfl (by simp [hdecorators, hparts])

/-! ## Statements -/

theorem reads_decorated : Reads (decorated self) Node.Plain := by
  refine .andThen .get fun start => h.decorator.many.bind fun decorators hdecorators => ?_
  refine .andThen moves_peekWord fun w => .ite ?_ (reads_classDeclaration h hdecorators)
  exact reads_exportStatement h start fun n hn => (hdecorators n hn).sound

theorem reads_loopOver : Reads (loopOver self) AllSound := by
  refine .bind (P := Node.Plain) (.orElse ?_ (h.plain _ nofun)) fun target htarget => ?_
  · refine .andThen (.orElse (moves_keyword _) (.orElse (moves_keyword _) (moves_keyword _)))
      fun _ => h.plain .pattern nofun
  refine .andThen (.orElse (moves_keyword _) (moves_keyword _)) fun _ => ?_
  refine (h.plain .sequence nofun).bind fun value hvalue => ?_
  exact .pure (by simp [htarget.sound, hvalue.sound])

theorem reads_loopCount : Reads (loopCount self) AllSound := by
  have hparts : Reads (loopCount.expressions self) AllSound :=
    .bind (.maybe_node (h.plain .sequence nofun)) fun o ho => .pure ho
  refine .bind (.orElse (reads_variableList h) hparts) fun first hfirst => ?_
  refine .andThen (moves_symbol _) fun _ => hparts.bind fun test htest => ?_
  refine .andThen (moves_symbol _) fun _ => hparts.bind fun last hlast => ?_
  exact .pure (by simp [hfirst, htest, hlast])

theorem reads_switchCase : Reads (switchCase self) AllSound := by
  refine .bind (P := AllSound) (.orElse ?_ ?_) fun test htest => ?_
  · exact .andThen (moves_keyword _) fun _ => .singleton (h.plain .sequence nofun)
  · exact .andThen (moves_keyword _) fun _ => .pure allSound_nil
  refine .andThen (moves_symbol _) fun _ => .bind (.many_node ?_) fun inner hinner => ?_
  · refine .check (moves_could _) <| ?_
    exact h.plain .statement nofun
  exact .pure (by simp [htest, hinner])

theorem reads_leaving (w : String) : Reads (worded.leaving self w) AllSound := by
  refine reads_ended (.andThen (moves_keyword _) fun _ => .andThen moves_onFreshLine fun _ => ?_)
  -- what is left with stands on the same line
  refine .ite (.pure allSound_nil) ?_
  exact .bind (.maybe_node (h.plain .sequence nofun)) fun o ho => .pure ho

omit h in
theorem reads_jump (w : String) : Reads (worded.jump w) AllSound := by
  refine reads_ended (.andThen (moves_keyword _) fun _ => .andThen moves_onFreshLine fun _ => ?_)
  exact .ite (.pure allSound_nil) (.bind (.maybe_node reads_valueName) fun o ho => .pure ho)

theorem reads_held {test : Node} (htest : test.Plain) :
    Reads (do return [test, ← self .statement]) AllSound := by
  refine (h.plain .statement nofun).bind fun held hheld => ?_
  exact .pure (by simp [htest.sound, hheld.sound])

theorem reads_worded (w : String) : Reads (worded self w) AllSound := by
  unfold worded
  split
  · -- a choice between two statements
    refine .andThen (moves_keyword _) fun _ => (reads_condition h).bind fun test htest => ?_
    refine (h.plain .statement nofun).bind fun held hheld => ?_
    refine .bind (.maybe_node ?_) fun other hother => ?_
    · exact .andThen (moves_keyword _) fun _ => h.plain .statement nofun
    exact .pure (by simp [htest.sound, hheld.sound, hother])
  · exact .andThen (moves_keyword _) fun _ => (reads_condition h).bind fun _ => reads_held h
  · exact .andThen (moves_keyword _) fun _ => (reads_condition h).bind fun _ => reads_held h
  · -- a loop with its condition at the end
    refine .andThen (moves_keyword _) fun _ => (h.plain .statement nofun).bind fun body hbody => ?_
    refine .andThen (moves_keyword _) fun _ => reads_ended ?_
    refine (reads_condition h).bind fun test htest => ?_
    exact .pure (by simp [hbody.sound, htest.sound])
  · -- a loop over members or with a counter
    refine .andThen (moves_keyword _) fun _ => .andThen (.tried (moves_keyword _)) fun _ => ?_
    refine .andThen (moves_symbol _) fun _ => ?_
    refine .bind (P := AllSound) (.orElse ?_ ?_) fun head hhead => ?_
    · refine (reads_loopOver h).bind fun parts hparts => ?_
      exact .andThen (moves_symbol _) fun _ => .pure hparts
    · refine (reads_loopCount h).bind fun parts hparts => ?_
      exact .andThen (moves_symbol _) fun _ => .pure hparts
    refine (h.plain .statement nofun).bind fun held hheld => ?_
    exact .pure (by simp [hhead, hheld.sound])
  · -- a choice between cases
    refine .andThen (moves_keyword _) fun _ => (reads_condition h).bind fun test htest => ?_
    refine .andThen (moves_symbol _) fun _ => ?_
    refine .bind (.many_nodes (reads_switchCase h)) fun cases hcases => ?_
    exact .andThen (moves_symbol _) fun _ => .pure (by simp [htest.sound, hcases])
  · -- a block with a handler, with what it binds, and a last block
    refine .andThen (moves_keyword _) fun _ => (h.plain .block nofun).bind fun body hbody => ?_
    refine .bind (.maybe_nodes ?_) fun handler hhandler => ?_
    · refine .andThen (moves_keyword _) fun _ => .bind (.maybe_nodes ?_) fun bound hbound => ?_
      · refine .andThen (moves_symbol _) fun _ => (h.plain .pattern nofun).bind fun n hn => ?_
        refine .bind (.maybe_node (reads_typeMark h)) fun type htype => ?_
        exact .andThen (moves_symbol _) fun _ => .pure (by simp [hn.sound, htype])
      refine (h.plain .block nofun).bind fun inner hinner => ?_
      exact .pure (by simp [hbound, hinner.sound])
    refine .bind (.maybe_node ?_) fun last hlast => ?_
    · exact .andThen (moves_keyword _) fun _ => h.plain .block nofun
    exact .pure (by simp [hbody.sound, hhandler, hlast])
  · exact reads_leaving h _
  · exact reads_leaving h _
  · exact reads_jump _
  · exact reads_jump _
  · exact .andThen (moves_keyword _) fun _ => .andThen moves_semicolon fun _ => .pure allSound_nil
  · exact .failure

theorem reads_labelled : Reads (labelled self) Node.Plain := by
  refine .spanning rfl (reads_valueName.bind fun name hname => ?_)
  refine .andThen (moves_symbol _) fun _ => ?_
  refine (h.plain .statement nofun).bind fun held hheld => ?_
  exact .pure (by simp [hname.sound, hheld.sound])

theorem reads_calculation : Reads (calculation self) Node.Plain :=
  .spanning rfl (reads_ended (.singleton (h.plain .sequence nofun)))

theorem reads_proper : Reads (proper self) Node.Plain := by
  have hcalculation := reads_calculation h
  refine .andThen (moves_looksAt _) fun _ => .ite (h.plain .block nofun) ?_
  refine .andThen (moves_looksAt _) fun _ => .ite (.leaf rfl (moves_symbol _)) ?_
  refine .andThen (moves_looksAt _) fun _ => .ite (reads_decorated h) ?_
  refine .andThen .get fun start => .andThen moves_peekWord fun w => ?_
  -- the first word chooses the rule; where it may be a name, an expression is tried last
  split
  · exact (reads_importStatement h).orElse (reads_importAlias.orElse hcalculation)
  · exact reads_exportStatement h start allSound_nil
  · exact reads_classDeclaration_nil h start
  · exact (reads_classDeclaration_nil h start).orElse hcalculation
  · exact reads_functionDeclaration h
  · exact (reads_functionDeclaration h).orElse ((reads_labelled h).orElse hcalculation)
  · exact (reads_interface h).orElse hcalculation
  · exact (reads_typeAlias h).orElse ((reads_labelled h).orElse hcalculation)
  · exact (reads_space h).orElse hcalculation
  · exact (reads_space h).orElse hcalculation
  · exact (reads_ambient h).orElse hcalculation
  · exact reads_enumeration h
  · exact (reads_enumeration h).orElse (reads_variables h)
  · exact reads_variables h
  · exact (reads_variables h).orElse hcalculation
  · exact .orElse (.spanning rfl (reads_worded h _)) ((reads_labelled h).orElse hcalculation)

theorem reads_statement : Reads (statement self) Node.Plain :=
  (reads_proper h).orElse (h.plain .group nofun)

/-! ## All rules -/

/-- Rules over sound rules are sound. -/
theorem sound_rule : Rules.Sound (rule self) where
  plain goal hgoal := by
    cases goal with
    | group => exact (reads_group h).plain nofun
    | type => exact reads_type h
    | typeArguments => exact reads_typeArguments h
    | typeParameters => exact reads_typeParameters h
    | pattern => exact reads_pattern h
    | parameters => exact reads_parameters h
    | decorator => exact absurd rfl hgoal
    | template => exact reads_template h
    | expression typed => exact reads_expression h typed
    | operand typed => exact reads_operand h typed
    | sequence => exact reads_sequence h
    | arguments => exact reads_arguments h
    | block => exact reads_block h
    | statement => exact reads_statement h
    | classBody => exact (reads_classBody h).plain nofun
  group := reads_group h
  classBody := reads_classBody h
  decorator := reads_decorator h
  starts := starts_decorator
  advances := advances_decorator h

end Rules

/-- The rules are sound, however deep goals may lie in each other. -/
theorem sound_reader (depth : Nat) : Rules.Sound (reader depth) := by
  induction depth with
  | zero => exact ⟨fun _ _ => .failure, .failure, .failure, .failure, nofun, nofun⟩
  | succ depth ih => exact sound_rule ih

/-! ## Sources -/

theorem reads_statements (depth : Nat) : Reads (statements depth) AllSound := by
  refine .many_node (.check moves_atEnd <| ?_)
  exact ((sound_reader depth).plain .statement nofun).orElse (.leaf rfl (moves_take fun _ => 1))

theorem comments_ofSource (cs : List Char) : ∀ n ∈ (Cursor.ofSource cs).comments, n.IsComment := by
  unfold Cursor.ofSource
  extract_lets whole start
  have hstart : start.comments = [] := by
    unfold start
    split
    · exact Cursor.comments_advance _ _
    · rfl
  exact (Cursor.onward_skip _ _).comments (by simp [hstart])

/-- Comments are put one after the other into the tree of the statements. -/
theorem Node.Sound.foldl_insert {comments : List Node} (hcomments : ∀ n ∈ comments, n.IsComment)
    {tree : Node} (htree : tree.Sound) :
    (comments.foldl (fun tree comment => Node.insert comment tree) tree).Sound := by
  induction comments generalizing tree with
  | nil => exact htree
  | cons comment rest ih =>
      have hfirst := List.forall_mem_cons.1 hcomments
      exact ih hfirst.2 (htree.insert hfirst.1)

/-- The tree of a source is sound. -/
theorem sound_ofSource (source : String) : (Node.ofSource source).Sound := by
  unfold Node.ofSource
  extract_lets cs start
  have hstart : ∀ n ∈ start.comments, n.IsComment := comments_ofSource cs
  split
  rename_i children stop hread
  have hread : AllSound children ∧ ∀ n ∈ stop.comments, n.IsComment := by
    cases hrun : (statements (8 * cs.length + 16)).run start with
    | none =>
        rw [hrun] at hread
        cases hread
        exact ⟨allSound_nil, hstart⟩
    | some result =>
        rw [hrun] at hread
        cases hread
        rcases reads_statements _ hrun with ⟨honward, hsound⟩
        exact ⟨hsound, honward.comments hstart⟩
  -- the comments have been gathered from the last to the first
  refine Node.Sound.foldl_insert (fun n hn => hread.2 n (List.mem_reverse.1 hn)) ?_
  exact .mk trivial hread.1

end Syntax
end RoleAudit
