import Mathlib.Data.List.Basic
import RoleAudit.Syntax.Statements
import RoleAudit.Proofs.Syntax.Expressions

/-!
# The body of a class

Each member of a class shows its decorators and its method between the places where it is read, so
that the whole body shows them in order.

- `Piece`: members that are read between two places, and their order;
- `Pieces`: a reader gives such members; a member does, with its decorators or without any;
- `reads_classBody`: the body of a class has the shape of one.
-/

namespace RoleAudit
namespace Syntax

/-! ## Members between two places -/

/-- Members of a class that are read between two places. -/
structure Piece (low high : Nat) (members : List Node) : Prop where
  sound : AllSound members
  orderly : Orderly (faces members)
  le : low ≤ high
  inside : ∀ place ∈ (faces members).filterMap Face.anchor?, low ≤ place ∧ place < high

theorem Piece.nil (place : Nat) : Piece place place [] :=
  ⟨allSound_nil, ⟨List.Pairwise.nil, .nil, nofun⟩, Nat.le_refl place, nofun⟩

theorem Piece.append {low mid high : Nat} {ns ms : List Node} (hns : Piece low mid ns)
    (hms : Piece mid high ms) : Piece low high (ns ++ ms) := by
  refine ⟨(allSound_append _ _).2 ⟨hns.sound, hms.sound⟩, ?_, Nat.le_trans hns.le hms.le, ?_⟩
  · rw [faces_append]
    refine ⟨?_, hns.orderly.led.append hms.orderly.led, ?_⟩
    · -- the first members end before the others begin
      rw [List.filterMap_append]
      refine List.pairwise_append.2 ⟨hns.orderly.ascending, hms.orderly.ascending, ?_⟩
      intro p hp q hq
      exact Nat.lt_of_lt_of_le (hns.inside p hp).2 (hms.inside q hq).1
    · exact List.forall_mem_append.2 ⟨hns.orderly.named, hms.orderly.named⟩
  · intro place hplace
    rw [faces_append, List.filterMap_append] at hplace
    have hle := hns.le
    have hle' := hms.le
    rcases List.mem_append.1 hplace with hplace | hplace
    · have := hns.inside place hplace
      omega
    · have := hms.inside place hplace
      omega

/-- Members that are neither decorators nor methods. -/
theorem piece_of_other {low high : Nat} (hle : low ≤ high) {ns : List Node} (hns : AllSound ns)
    (hother : ∀ n ∈ ns, n.kind = .other) : Piece low high ns := by
  have hfaces : ∀ f ∈ faces ns, f.kind = .other := by
    intro f hf
    rcases List.mem_map.1 hf with ⟨n, hn, rfl⟩
    exact hother n (List.mem_filter.1 hn).1
  have hanchors : (faces ns).filterMap Face.anchor? = [] := by
    apply List.filterMap_eq_nil_iff.2
    intro f hf
    simp [Face.anchor?, hfaces f hf]
  -- nothing leads these members, and they lead nothing
  have hled : Led (faces ns) := by
    generalize faces ns = fs at hfaces
    induction fs with
    | nil => exact .nil
    | cons f fs ih =>
        refine .plain (by simp [hfaces f List.mem_cons_self]) (ih fun g hg => ?_)
        exact hfaces g (List.mem_cons_of_mem f hg)
  refine ⟨hns, ⟨by simp [hanchors], hled, fun f hf hmethod => ?_⟩, hle, by simp [hanchors]⟩
  simp [hfaces f hf] at hmethod

/-- Decorators that start in order between two places. -/
structure Marks (low high : Nat) (ns : List Node) : Prop where
  marks : ∀ n ∈ ns, n.Sound ∧ n.kind = .decorator
  le : low ≤ high
  ascending : (ns.map Node.start).Pairwise (· < ·)
  inside : ∀ n ∈ ns, low ≤ n.start ∧ n.start < high

theorem Marks.faces_eq {low high : Nat} {ns : List Node} (h : Marks low high ns) :
    faces ns = ns.map Node.face := by
  unfold faces
  rw [List.filter_eq_self.2]
  intro n hn
  simp [(h.marks n hn).2]

theorem Marks.anchors_eq {low high : Nat} {ns : List Node} (h : Marks low high ns) :
    (ns.map Node.face).filterMap Face.anchor? = ns.map Node.start := by
  rw [List.filterMap_map, ← List.filterMap_eq_map]
  apply List.filterMap_congr
  intro n hn
  simp [Face.anchor?, Node.face, (h.marks n hn).2]

/-- Decorators and the method after them. -/
theorem Marks.piece {low mid high place : Nat} {marks : List Node} (h : Marks low mid marks)
    {method : Node} (hsound : method.Sound) (hface : method.face = ⟨.method, mid, some place⟩)
    (hbefore : mid ≤ place) (hafter : place < high) : Piece low high (marks ++ [method]) := by
  have hkind : method.kind = .method := congrArg Face.kind hface
  have hfaces : faces (marks ++ [method]) = marks.map Node.face ++ [method.face] := by
    rw [faces_append, h.faces_eq, faces_cons (by simp [hkind]), faces_nil]
  have hanchors : (faces (marks ++ [method])).filterMap Face.anchor? =
      marks.map Node.start ++ [place] := by
    rw [hfaces, List.filterMap_append, h.anchors_eq, hface]
    rfl
  have hle := h.le
  refine ⟨?_, ⟨?_, ?_, ?_⟩, by omega, ?_⟩
  · exact List.forall_mem_append.2 ⟨fun n hn => (h.marks n hn).1, by simpa using hsound⟩
  · -- the name of the method stands behind all its decorators
    rw [hanchors]
    refine List.pairwise_append.2 ⟨h.ascending, List.pairwise_singleton _ _, ?_⟩
    intro p hp q hq
    rcases List.mem_map.1 hp with ⟨n, hn, rfl⟩
    have := (h.inside n hn).2
    have := List.mem_singleton.1 hq
    omega
  · rw [hfaces]
    refine led_marks (fun f hf => ?_) (congrArg Face.kind hface)
    rcases List.mem_map.1 hf with ⟨n, hn, rfl⟩
    exact (h.marks n hn).2
  · rw [hfaces]
    intro f hf hmethod
    rcases List.mem_append.1 hf with hf | hf
    · rcases List.mem_map.1 hf with ⟨n, hn, rfl⟩
      have hmark : n.face.kind = .decorator := (h.marks n hn).2
      simp [hmark] at hmethod
    · rw [List.mem_singleton.1 hf, hface]
      rfl
  · rw [hanchors]
    intro p hp
    rcases List.mem_append.1 hp with hp | hp
    · rcases List.mem_map.1 hp with ⟨n, hn, rfl⟩
      have := h.inside n hn
      omega
    · have := List.mem_singleton.1 hp
      omega

/-! ## Readers of members -/

/-- What a reader gives are members between the places where it is. -/
def Pieces (r : Reader (List Node)) : Prop :=
  ∀ ⦃c ns c'⦄, r.run c = some (ns, c') → c.Onward c' ∧ Piece c.place c'.place ns

theorem Pieces.orElse {r s : Reader (List Node)} (hr : Pieces r) (hs : Pieces s) :
    Pieces (r <|> s) := by
  intro c ns c' h
  rcases run_orElse_eq_some.1 h with h | ⟨-, h⟩
  · exact hr h
  · exact hs h

/-- Members are read one after the other. -/
theorem Pieces.many {r : Reader (List Node)} (hr : Pieces r) {c c' : Cursor}
    {parts : List (List Node)} (h : (many r).run c = some (parts, c')) :
    c.Onward c' ∧ Piece c.place c'.place parts.flatten := by
  refine run_many_induction
    (S := fun c parts c' => c.Onward c' ∧ Piece c.place c'.place parts.flatten) ?_ ?_ h
  · exact fun c => ⟨.refl c, .nil c.place⟩
  · intro c ns c₁ parts c' hfirst hrest
    have hpiece := hr hfirst
    exact ⟨hpiece.1.trans hrest.1, hpiece.2.append hrest.2⟩

theorem pieces_of_other {r : Reader Node}
    (h : Reads r (Node.MadeAs .other)) :
    Pieces (do return [← r]) := by
  intro c ns c' hr
  rcases run_bind_eq_some.1 hr with ⟨n, c₁, hr, hpure⟩
  rcases run_pure_eq_some.1 hpure with ⟨rfl, rfl⟩
  rcases h hr with ⟨honward, hsound, -, hkind⟩
  exact ⟨honward, piece_of_other honward.place (by simpa using hsound) (by simpa using hkind)⟩

/-- A node over parts that lie in no class. -/
theorem reads_other {r : Reader (List Node)} (hr : Reads r AllSound) :
    Reads (spanning .other r) (Node.MadeAs .other) :=
  reads_spanning hr fun _ hns => ⟨trivial, hns⟩

section Rules

variable {self : Rules} (h : self.Sound)

include h

theorem reads_staticBlock :
    Reads (staticBlock self) (Node.MadeAs .other) :=
  reads_other (.andThen (moves_keyword _) fun _ => .singleton (h.plain .block nofun))

theorem reads_indexSignature :
    Reads (indexSignature self) (Node.MadeAs .other) := by
  refine reads_other (.andThen (.moves (.many moves_memberMark)) fun _ => ?_)
  refine .andThen (.tried (.orElse (moves_symbol _) (moves_symbol _))) fun sign => ?_
  extract_lets rest
  have hrest : ∀ u, Reads (rest u) AllSound := by
    intro u
    refine .andThen (moves_symbol _) fun _ => .andThen moves_word fun _ => ?_
    refine .bind (.orElse (reads_typeMark h) ?_) fun type htype => ?_
    · exact .andThen (moves_keyword _) fun _ => h.plain .type nofun
    refine .andThen (moves_symbol _) fun _ => ?_
    refine .bind (.maybe_node (reads_typeMark h)) fun result hresult => ?_
    exact .pure (by simp [htype.sound, hresult])
  exact .ite (.andThen (moves_keyword _) hrest) (hrest ())

theorem reads_methodSignature :
    Reads (methodSignature self) (Node.MadeAs .other) := by
  refine reads_other (.andThen (.moves (.many moves_memberMark)) fun _ => ?_)
  refine .andThen (.tried (moves_symbol _)) fun _ => (reads_memberName h).bind fun name hname => ?_
  refine .andThen (.tried (moves_symbol _)) fun _ => ?_
  refine (reads_signature_sound h).bind fun head hhead => ?_
  exact .pure (by simp [hname.sound, hhead])

theorem reads_property :
    Reads (property self) (Node.MadeAs .other) := by
  refine reads_other (h.decorators.bind fun decorators hdecorators => ?_)
  refine .andThen (.moves (.many moves_memberMark)) fun _ => ?_
  refine (reads_memberName h).bind fun name hname => ?_
  refine .andThen (.tried (.orElse (moves_symbol _) (moves_symbol _))) fun _ => ?_
  refine .bind (.maybe_node (reads_typeMark h)) fun type htype => ?_
  refine .bind (.maybe_node (reads_initializer h)) fun value hvalue => ?_
  exact .pure (by simp [hdecorators, hname.sound, htype, hvalue])

/-- Decorators are read one after the other. -/
theorem marks_of_decorators {c c' : Cursor} {ns : List Node}
    (hr : (many (self .decorator)).run c = some (ns, c')) : Marks c.place c'.place ns := by
  refine run_many_induction (S := fun c ns c' => Marks c.place c'.place ns) ?_ ?_ hr
  · exact fun c => ⟨nofun, Nat.le_refl _, List.Pairwise.nil, nofun⟩
  · intro c n c₁ ns c' hstep hrest
    have hmark := (h.decorator hstep).2
    -- a decorator starts where it is read, and it is not empty
    have hstart : n.start = c.place := h.starts hstep
    have hlength : c.place < c₁.place := h.advances hstep
    have hle := hrest.le
    refine ⟨?_, by omega, List.pairwise_cons.2 ⟨?_, hrest.ascending⟩, ?_⟩
    · exact List.forall_mem_cons.2 ⟨⟨hmark.sound, hmark.kind⟩, hrest.marks⟩
    · intro p hp
      rcases List.mem_map.1 hp with ⟨m, hm, rfl⟩
      have := (hrest.inside m hm).1
      omega
    · refine List.forall_mem_cons.2 ⟨by omega, fun m hm => ?_⟩
      have := hrest.inside m hm
      omega

theorem pieces_decoratedMethod : Pieces (decoratedMethod self) := by
  intro c ns c' hr
  rcases run_bind_eq_some.1 hr with ⟨decorators, c₁, hdecorators, hr⟩
  rcases run_bind_eq_some.1 hr with ⟨n, c₂, hmethod, hpure⟩
  rcases run_pure_eq_some.1 hpure with ⟨rfl, rfl⟩
  rcases face_of_method h hmethod with ⟨place, hface, hbefore, hafter⟩
  have hmarks := marks_of_decorators h hdecorators
  have honward := (h.decorators hdecorators).1.trans (reads_method h hmethod).1
  exact ⟨honward, hmarks.piece (reads_method h hmethod).2.sound hface hbefore hafter⟩

theorem pieces_member : Pieces (member self) := by
  refine .orElse ?_ <| .orElse (pieces_of_other (reads_staticBlock h)) <|
    .orElse (pieces_decoratedMethod h) <| .orElse (pieces_of_other (reads_indexSignature h)) <|
    .orElse (pieces_of_other (reads_methodSignature h)) (pieces_of_other (reads_property h))
  -- a sign between members
  intro c ns c' hr
  have hsign : Reads (do symbol ";" <|> symbol ","; return []) (· = ([] : List Node)) :=
    .andThen (.orElse (moves_symbol _) (moves_symbol _)) fun _ => .pure rfl
  rcases hsign hr with ⟨honward, rfl⟩
  exact ⟨honward, piece_of_other honward.place allSound_nil nofun⟩

/-- The body of a class shows its decorators and methods in order. -/
theorem reads_classBody :
    Reads (classBody self) (Node.MadeAs .classBody) := by
  have hstep : Pieces (member self <|> do return [← stray self]) :=
    .orElse (pieces_member h) (pieces_of_other h.group)
  have hmembers : Reads (many (member self <|> do return [← stray self])) fun parts =>
      Orderly (faces parts.flatten) ∧ AllSound parts.flatten := by
    intro c parts c' hr
    have hpiece := hstep.many hr
    exact ⟨hpiece.1, hpiece.2.orderly, hpiece.2.sound⟩
  refine reads_spanning (P := fun ns => Orderly (faces ns) ∧ AllSound ns) ?_ fun ns hns => hns
  refine .andThen (moves_symbol _) fun _ => hmembers.bind fun parts hparts => ?_
  exact .andThen (moves_symbol _) fun _ => .pure hparts

end Rules

end Syntax
end RoleAudit
