import Mathlib.Data.List.Flatten
import RoleAudit.Proofs.Controller.Binding

/-!
# The window of a method

The decorators that a method counts, said by where they start: after the name of the last method
before it, or from the start of the body on, and before its own name.

- `InOrder`: the members of a class body stand where they are written;
- `Counts`: a decorator counts for a method;
- `mem_windowOf_iff`: the window of a method holds what counts for it;
- `endpointsOf_split`: the endpoint of a method is made of its window, at the place of the method.
-/

namespace RoleAudit

open Syntax

/-! ## Members in order -/

/-- The decorators that a member of a body brings: itself, or those directly in a method. -/
def ownMarks (c : Node) : List Decorator :=
  match c.kind with
  | .decorator => [Decorator.ofNode c]
  | .method => decoratorsOf c
  | _ => []

theorem memberDecorators_eq (body : Node) :
    memberDecorators body = body.children.flatMap ownMarks := rfl

/-- The methods among some members, as they stand. -/
def foundIn (members : List Node) : List MethodFound :=
  (members.filter fun c => c.kind == .method).filterMap MethodFound.ofNode?

/-- Where the decorators of some members start, and the names of the methods among them. -/
def anchorsOf (members : List Node) : List Nat :=
  members.flatMap fun c => (ownMarks c).map (·.place) ++ (foundIn [c]).map (·.place)

/-- The methods of a body have names, and decorators and names stand one after the other. -/
structure InOrder (members : List Node) : Prop where
  named : ∀ n ∈ members, n.kind = .method → (n.child? .name).isSome
  ascending : (anchorsOf members).Pairwise (· < ·)

theorem foundIn_append (ns ms : List Node) : foundIn (ns ++ ms) = foundIn ns ++ foundIn ms := by
  simp [foundIn]

theorem foundIn_cons_of_method {n : Node} (hkind : n.kind = .method) {m : MethodFound}
    (hm : MethodFound.ofNode? n = some m) (ns : List Node) :
    foundIn (n :: ns) = m :: foundIn ns := by
  simp [foundIn, hkind, hm]

theorem foundIn_cons_of_ne {n : Node} (hkind : n.kind ≠ .method) (ns : List Node) :
    foundIn (n :: ns) = foundIn ns := by
  simp [foundIn, hkind]

theorem foundIn_eq_nil {ns : List Node} (h : ∀ n ∈ ns, n.kind ≠ .method) : foundIn ns = [] := by
  have hnone : ns.filter (fun c => c.kind == .method) = [] :=
    List.filter_eq_nil_iff.2 fun n hn => by simpa using h n hn
  rw [foundIn, hnone, List.filterMap_nil]

theorem ownMarks_eq_nil {n : Node} (hmethod : n.kind ≠ .method) (hmark : n.kind ≠ .decorator) :
    ownMarks n = [] := by
  unfold ownMarks
  split
  · contradiction
  · contradiction
  · rfl

theorem anchorsOf_append (ns ms : List Node) :
    anchorsOf (ns ++ ms) = anchorsOf ns ++ anchorsOf ms :=
  List.flatMap_append

theorem place_mem_anchorsOf {ns : List Node} {d : Decorator} (hd : d ∈ ns.flatMap ownMarks) :
    d.place ∈ anchorsOf ns := by
  obtain ⟨c, hc, hd⟩ := List.mem_flatMap.1 hd
  exact List.mem_flatMap.2 ⟨c, hc, List.mem_append_left _ (List.mem_map.2 ⟨d, hd, rfl⟩)⟩

theorem found_mem_anchorsOf {ns : List Node} {m : MethodFound} (hm : m ∈ foundIn ns) :
    m.place ∈ anchorsOf ns := by
  obtain ⟨n, hn, hfound⟩ := List.mem_filterMap.1 hm
  obtain ⟨hn, hkind⟩ := List.mem_filter.1 hn
  have hone : foundIn [n] = [m] := by
    rw [foundIn_cons_of_method (by simpa using hkind) hfound]
    rfl
  refine List.mem_flatMap.2 ⟨n, hn, List.mem_append_right _ ?_⟩
  rw [hone]
  exact List.mem_singleton_self _

namespace InOrder

variable {before after : List Node} {n : Node} {m : MethodFound}

theorem exists_found {members : List Node} (h : InOrder members) (hn : n ∈ members)
    (hkind : n.kind = .method) : ∃ m, MethodFound.ofNode? n = some m :=
  MethodFound.exists_ofNode? (h.named n hn hkind)

/-- The name of a method stands after all before it and its own decorators, and before the rest. -/
theorem around (h : InOrder (before ++ n :: after)) (hkind : n.kind = .method)
    (hm : MethodFound.ofNode? n = some m) :
    (∀ p ∈ anchorsOf before, p < m.place) ∧ (∀ d ∈ ownMarks n, d.place < m.place) ∧
      ∀ p ∈ anchorsOf after, m.place < p := by
  have hone : anchorsOf [n] = (ownMarks n).map (·.place) ++ [m.place] := by
    simp [anchorsOf, foundIn_cons_of_method hkind hm, foundIn_eq_nil]
  have hall : anchorsOf (before ++ n :: after) =
      anchorsOf before ++ (((ownMarks n).map (·.place) ++ [m.place]) ++ anchorsOf after) := by
    rw [← List.singleton_append, anchorsOf_append, anchorsOf_append, hone]
  have hpairs := h.ascending
  rw [hall] at hpairs
  obtain ⟨-, hrest, hbefore⟩ := List.pairwise_append.1 hpairs
  obtain ⟨hown, -, hafter⟩ := List.pairwise_append.1 hrest
  refine ⟨fun p hp => ?_, fun d hd => ?_, fun p hp => ?_⟩
  · exact hbefore p hp m.place (by simp)
  · exact (List.pairwise_append.1 hown).2.2 d.place (List.mem_map.2 ⟨d, hd, rfl⟩) m.place (by simp)
  · exact hafter m.place (by simp) p hp

/-- No decorator starts where the name of a method does. -/
theorem place_ne (h : InOrder (before ++ n :: after)) (hkind : n.kind = .method)
    (hm : MethodFound.ofNode? n = some m) {d : Decorator}
    (hd : d ∈ (before ++ n :: after).flatMap ownMarks) : d.place ≠ m.place := by
  obtain ⟨hbefore, hown, hafter⟩ := h.around hkind hm
  rw [List.flatMap_append, List.flatMap_cons] at hd
  rcases List.mem_append.1 hd with hd | hd
  · exact Nat.ne_of_lt (hbefore d.place (place_mem_anchorsOf hd))
  rcases List.mem_append.1 hd with hd | hd
  · exact Nat.ne_of_lt (hown d hd)
  · exact Nat.ne_of_gt (hafter d.place (place_mem_anchorsOf hd))

end InOrder

/-- The methods of a body in order are found as they stand. -/
theorem methodsOf_eq {body : Node} (h : InOrder body.children) :
    methodsOf body = foundIn body.children := by
  have hsub : ((foundIn body.children).map (·.place)).Sublist (anchorsOf body.children) := by
    have heach : (foundIn body.children).map (·.place) =
        body.children.flatMap fun c => (foundIn [c]).map (·.place) := by
      generalize body.children = ns
      induction ns with
      | nil => rfl
      | cons n ns ih => rw [← List.singleton_append, foundIn_append, List.map_append, ih]; rfl
    rw [heach]
    exact List.Sublist.flatMap_right _ fun c _ => List.sublist_append_right _ _
  have hpairs := List.pairwise_map.1 (h.ascending.sublist hsub)
  exact ordered_of_pairwise (hpairs.imp fun hlt => by simpa using Nat.le_of_lt hlt)

/-- The decorators of the members of a body start one after the other. -/
theorem memberDecorators_pairwise {body : Node} (h : InOrder body.children) :
    (memberDecorators body).Pairwise fun a b => a.place < b.place := by
  have hsub : ((body.children.flatMap ownMarks).map (·.place)).Sublist
      (anchorsOf body.children) := by
    rw [List.map_flatMap]
    exact List.Sublist.flatMap_right _ fun c _ => List.sublist_append_left _ _
  exact List.pairwise_map.1 (h.ascending.sublist hsub)

/-- A sound method has no decorators inside. -/
theorem ownMarks_of_method {n : Node} (hsound : n.Sound) (hmethod : n.kind = .method) :
    ownMarks n = [] := by
  have hshape := hsound.shapely
  rw [hmethod] at hshape
  have hnone : n.children.filter (fun c => c.kind == .decorator) = [] :=
    List.filter_eq_nil_iff.2 fun c hc => by simpa using hshape c hc
  simp only [ownMarks, hmethod, decoratorsOf, hnone, List.map_nil]

theorem anchor?_eq_none {n : Node} (hmethod : n.kind ≠ .method) (hmark : n.kind ≠ .decorator) :
    n.face.anchor? = none := by
  unfold Face.anchor?
  split
  · contradiction
  · contradiction
  · rfl

/-- A member shows its anchors on its face. -/
theorem anchorsOf_singleton {n : Node} (hsound : n.Sound)
    (hnamed : n.kind = .method → (n.child? .name).isSome) :
    anchorsOf [n] = (faces [n]).filterMap Face.anchor? := by
  by_cases hmethod : n.kind = .method
  · obtain ⟨name, hname⟩ := Option.isSome_iff_exists.1 (hnamed hmethod)
    simp [anchorsOf, ownMarks_of_method hsound hmethod, foundIn, MethodFound.ofNode?, hmethod,
      hname, faces, Node.face, Face.anchor?]
  · have hfound : foundIn [n] = [] := foundIn_eq_nil (by simpa using hmethod)
    by_cases hmark : n.kind = .decorator
    · simp [anchorsOf, hfound, ownMarks, hmark, faces, Node.face, Face.anchor?]
    · have hown := ownMarks_eq_nil hmethod hmark
      -- a comment has no face, and the face of any other member has no anchor
      by_cases hcomment : n.kind = .comment
      · simp [anchorsOf, hfound, hown, faces, hcomment]
      · simp [anchorsOf, hfound, hown, faces, hcomment, anchor?_eq_none hmethod hmark]

/-- Without decorators inside its methods, a body shows all its anchors. -/
theorem anchorsOf_eq_faces {ns : List Node} (hsound : ∀ n ∈ ns, n.Sound)
    (hnamed : ∀ n ∈ ns, n.kind = .method → (n.child? .name).isSome) :
    anchorsOf ns = (faces ns).filterMap Face.anchor? := by
  induction ns with
  | nil => rfl
  | cons n ns ih =>
      have hfirst := anchorsOf_singleton (hsound n List.mem_cons_self)
        (hnamed n List.mem_cons_self)
      have hrest := ih (fun m hm => hsound m (List.mem_cons_of_mem n hm))
        fun m hm => hnamed m (List.mem_cons_of_mem n hm)
      rw [← List.singleton_append, anchorsOf_append, faces_append, List.filterMap_append, hfirst,
        hrest]

/-- The members of every class of a source are in order. -/
theorem inOrder_of_mem_classes {source : String} {c : ClassFound}
    (hc : c ∈ classes (Node.ofSource source)) : InOrder c.body.children := by
  obtain ⟨hsound, hkind⟩ := body_of_mem_classes (sound_ofSource source) hc
  have horderly : Orderly (faces c.body.children) := by
    have hshape := hsound.shapely
    rw [hkind] at hshape
    exact hshape
  have hnamed : ∀ n ∈ c.body.children, n.kind = .method → (n.child? .name).isSome := by
    intro n hn hmethod
    have hface : n.face ∈ faces c.body.children :=
      List.mem_map.2 ⟨n, List.mem_filter.2 ⟨hn, by simp [hmethod]⟩, rfl⟩
    simpa [Node.face] using horderly.named n.face hface hmethod
  refine ⟨hnamed, ?_⟩
  rw [anchorsOf_eq_faces hsound.children hnamed]
  exact horderly.ascending

/-! ## Windows -/

/-- Where the window after some methods opens. -/
def windowStart (start : Nat) (methods : List MethodFound) : Nat :=
  (methods.getLast?.map (·.place)).getD start

/-- Each method has its own window; the ones before it only tell where it opens. -/
theorem windows_append (decorators : List Decorator) (start : Nat) (methods : List MethodFound)
    (m : MethodFound) (rest : List MethodFound) :
    windows decorators start (methods ++ m :: rest) =
      windows decorators start methods ++
        (m, decorators.filter fun d =>
          windowStart start methods ≤ d.place && d.place < m.place) ::
        windows decorators m.place rest := by
  induction methods generalizing start with
  | nil => rfl
  | cons first methods ih =>
      have hstart : windowStart start (first :: methods) = windowStart first.place methods := by
        simp only [windowStart, List.getLast?_cons]
        cases methods.getLast? <;> rfl
      rw [List.cons_append, windows, windows, ih, hstart, List.cons_append]

theorem map_fst_windows (decorators : List Decorator) (start : Nat) (methods : List MethodFound) :
    (windows decorators start methods).map Prod.fst = methods := by
  induction methods generalizing start with
  | nil => rfl
  | cons m methods ih => rw [windows, List.map_cons, ih]

/-- What a method counts that stands after some members of a body. -/
def windowOf (body : Node) (before : List Node) (m : MethodFound) : List Decorator :=
  (memberDecorators body).filter fun d =>
    windowStart body.start (foundIn before) ≤ d.place && d.place < m.place

/-- A window opens after the name of the last method before it, or where the body starts. -/
def OpensBefore (body : Node) (before : List Node) (place : Nat) : Prop :=
  match (foundIn before).getLast? with
  | none => body.start ≤ place
  | some last => last.place < place

/-- A decorator counts for a method `n` that stands after the members `before` of a body. -/
structure Counts (body : Node) (before : List Node) (n : Node) (d : Decorator) : Prop where
  member : d ∈ memberDecorators body
  opened : OpensBefore body before d.place
  closed : ∀ name, n.child? .name = some name → d.place < name.start

section Split

variable {body : Node} (h : InOrder body.children) {before after : List Node} {n : Node}
  (hsplit : body.children = before ++ n :: after) (hkind : n.kind = .method) {m : MethodFound}
  (hm : MethodFound.ofNode? n = some m)

include h hsplit hkind hm

/-- What stands behind a method does not count for it. -/
theorem windowOf_eq : windowOf body before m =
    (before.flatMap ownMarks ++ ownMarks n).filter fun d =>
      windowStart body.start (foundIn before) ≤ d.place := by
  obtain ⟨hbefore, hown, hafter⟩ := (hsplit ▸ h).around hkind hm
  have hin : ∀ d ∈ before.flatMap ownMarks ++ ownMarks n, d.place < m.place := by
    intro d hd
    rcases List.mem_append.1 hd with hd | hd
    · exact hbefore d.place (place_mem_anchorsOf hd)
    · exact hown d hd
  have hout : (after.flatMap ownMarks).filter (fun d =>
      windowStart body.start (foundIn before) ≤ d.place && d.place < m.place) = [] := by
    refine List.filter_eq_nil_iff.2 fun d hd => ?_
    have := hafter d.place (place_mem_anchorsOf hd)
    simp
    omega
  -- one of the two bounds drops the rest, and the other one is all that is left to ask
  unfold windowOf
  rw [memberDecorators_eq, hsplit, List.flatMap_append, List.flatMap_cons, ← List.append_assoc,
    List.filter_append, hout, List.append_nil]
  refine List.filter_congr fun d hd => ?_
  simp [hin d hd]

omit hkind in
theorem mem_windowOf_iff (d : Decorator) : d ∈ windowOf body before m ↔ Counts body before n d := by
  obtain ⟨name, hname, rfl⟩ := Option.map_eq_some_iff.1 hm
  have hclosed : (∀ other, n.child? .name = some other → d.place < other.start) ↔
      d.place < name.start := by
    simp [hname]
  have hopened : d ∈ memberDecorators body →
      (OpensBefore body before d.place ↔
        windowStart body.start (foundIn before) ≤ d.place) := by
    intro hd
    unfold OpensBefore windowStart
    cases hlast : (foundIn before).getLast? with
    | none => rfl
    | some last =>
        -- the last method before is a member, and no decorator starts at its name
        obtain ⟨prev, hprev, hfound⟩ := List.mem_filterMap.1 (List.mem_of_getLast? hlast)
        obtain ⟨hprev, hprevKind⟩ := List.mem_filter.1 hprev
        obtain ⟨first, rest, rfl⟩ := List.append_of_mem hprev
        have hmembers : body.children = first ++ prev :: (rest ++ n :: after) := by
          rw [hsplit]
          simp
        have hne := (hmembers ▸ h).place_ne (by simpa using hprevKind) hfound
          (hmembers ▸ memberDecorators_eq body ▸ hd)
        exact ⟨Nat.le_of_lt, fun hle => Nat.lt_of_le_of_ne hle (Ne.symm hne)⟩
  unfold windowOf
  rw [List.mem_filter]
  constructor
  · rintro ⟨hd, hplace⟩
    simp only [Bool.and_eq_true, decide_eq_true_eq] at hplace
    exact ⟨hd, (hopened hd).2 hplace.1, hclosed.2 hplace.2⟩
  · rintro ⟨hd, hplace, hlt⟩
    refine ⟨hd, ?_⟩
    simp only [Bool.and_eq_true, decide_eq_true_eq]
    exact ⟨(hopened hd).1 hplace, hclosed.1 hlt⟩

/-- What a method counts stands before what a later method counts. -/
theorem Counts.place_lt {before' after' : List Node} {n' : Node}
    (hsplit' : body.children = before' ++ n' :: after') (hlater : before.length < before'.length)
    {d d' : Decorator} (hd : Counts body before n d) (hd' : Counts body before' n' d') :
    d.place < d'.place := by
  obtain ⟨between, rfl⟩ : ∃ between, before' = before ++ n :: between := by
    rcases List.append_eq_append_iff.1 (hsplit.symm.trans hsplit') with
      ⟨rest, rfl, hrest⟩ | ⟨rest, rfl, -⟩
    · cases rest with
      | nil => simp at hlater
      | cons first rest => exact ⟨rest, by rw [(List.cons.inj hrest).1]⟩
    · rw [List.length_append] at hlater
      omega
  have hbefore : d.place < m.place := by
    obtain ⟨name, hname, rfl⟩ := Option.map_eq_some_iff.1 hm
    exact hd.closed name hname
  -- the last method before the later one is the earlier one, or stands after it
  have hlast : ∃ last, (foundIn (before ++ n :: between)).getLast? = some last ∧
      m.place ≤ last.place := by
    rw [foundIn_append, foundIn_cons_of_method hkind hm, List.getLast?_append, List.getLast?_cons]
    refine ⟨_, rfl, ?_⟩
    cases hbetween : (foundIn between).getLast? with
    | none => exact Nat.le_refl _
    | some last =>
        have hmembers : body.children = before ++ n :: (between ++ n' :: after') := by
          rw [hsplit']
          simp
        refine Nat.le_of_lt (((hmembers ▸ h).around hkind hm).2.2 last.place ?_)
        rw [anchorsOf_append]
        exact List.mem_append_left _ (found_mem_anchorsOf (List.mem_of_getLast? hbetween))
  obtain ⟨last, hlast, hle⟩ := hlast
  have hopened := hd'.opened
  unfold OpensBefore at hopened
  rw [hlast] at hopened
  exact Nat.lt_trans (Nat.lt_of_lt_of_le hbefore hle) hopened

end Split

/-! ## The stretch before a method -/

/-- The decorators of members without methods are those among the members. -/
theorem flatMap_ownMarks {ns : List Node} (h : ∀ n ∈ ns, n.kind ≠ .method) :
    ns.flatMap ownMarks = (ns.filter fun n => n.kind == .decorator).map Decorator.ofNode := by
  induction ns with
  | nil => rfl
  | cons n ns ih =>
      have hrest := ih fun m hm => h m (List.mem_cons_of_mem n hm)
      have hkind := h n List.mem_cons_self
      rw [List.flatMap_cons, hrest]
      by_cases hmark : n.kind = .decorator
      · simp [ownMarks, hmark]
      · simp [ownMarks_eq_nil hkind hmark, hmark]

section Stretch

variable {body : Node} (h : InOrder body.children) {between after : List Node} {n : Node}
  (hbetween : ∀ x ∈ between, x.kind ≠ .method) (hkind : n.kind = .method) {m : MethodFound}
  (hm : MethodFound.ofNode? n = some m)

include h hbetween hkind hm

/-- The first method counts the decorators from the start of the body on. -/
theorem windowOf_first (hsplit : body.children = between ++ n :: after) :
    windowOf body between m =
      ((between.filter fun x => x.kind == .decorator).map Decorator.ofNode ++ ownMarks n).filter
        fun d => body.start ≤ d.place := by
  rw [windowOf_eq h hsplit hkind hm, foundIn_eq_nil hbetween, flatMap_ownMarks hbetween]
  rfl

/-- A later method counts the decorators that stand behind the method before it. -/
theorem windowOf_later {earlier : List Node} {prev : Node} (hprev : prev.kind = .method)
    (hsplit : body.children = (earlier ++ prev :: between) ++ n :: after) :
    windowOf body (earlier ++ prev :: between) m =
      (between.filter fun x => x.kind == .decorator).map Decorator.ofNode ++ ownMarks n := by
  have hmembers : body.children = earlier ++ prev :: (between ++ n :: after) := by
    rw [hsplit]
    simp
  obtain ⟨p, hp⟩ := h.exists_found (hmembers ▸ List.mem_append_right _ List.mem_cons_self) hprev
  obtain ⟨hearlier, hown, hlater⟩ := (hmembers ▸ h).around hprev hp
  have hstart : windowStart body.start (foundIn (earlier ++ prev :: between)) = p.place := by
    rw [foundIn_append, foundIn_cons_of_method hprev hp, foundIn_eq_nil hbetween, windowStart,
      List.getLast?_concat]
    rfl
  -- what stands up to the name of the method before is cut off, and nothing behind it
  have hout : (earlier.flatMap ownMarks ++ ownMarks prev).filter (fun d => p.place ≤ d.place) =
      [] := by
    refine List.filter_eq_nil_iff.2 fun d hd => ?_
    have hlt : d.place < p.place := by
      rcases List.mem_append.1 hd with hd | hd
      · exact hearlier d.place (place_mem_anchorsOf hd)
      · exact hown d hd
    simpa using hlt
  have hin : (between.flatMap ownMarks ++ ownMarks n).filter (fun d => p.place ≤ d.place) =
      between.flatMap ownMarks ++ ownMarks n := by
    refine List.filter_eq_self.2 fun d hd => ?_
    have hmem : d ∈ (between ++ n :: after).flatMap ownMarks := by
      rw [List.flatMap_append, List.flatMap_cons, ← List.append_assoc]
      exact List.mem_append_left _ hd
    have hlt := hlater d.place (place_mem_anchorsOf hmem)
    simpa using Nat.le_of_lt hlt
  rw [windowOf_eq h hsplit hkind hm, hstart, List.flatMap_append, List.flatMap_cons,
    ← List.append_assoc, List.append_assoc, List.filter_append, hout, hin, List.nil_append,
    flatMap_ownMarks hbetween]

end Stretch

/-! ## Endpoints -/

/-- A member of a body that is a method, and not the one that makes the object. -/
def isEndpoint (n : Node) : Bool :=
  n.kind == .method && n.childText .name != constructorName

theorem name_ofNode? {n : Node} {m : MethodFound} (h : MethodFound.ofNode? n = some m) :
    m.name = n.childText .name := by
  obtain ⟨name, hname, rfl⟩ := Option.map_eq_some_iff.1 h
  simp [Node.childText, hname]

/-- The methods that are found among named members are the endpoints and the constructors. -/
theorem map_name_foundIn {members : List Node}
    (hnamed : ∀ n ∈ members, n.kind = .method → (n.child? .name).isSome) :
    ((foundIn members).filter fun m => m.name != constructorName).map (·.name) =
      (members.filter isEndpoint).map (·.childText .name) := by
  induction members with
  | nil => rfl
  | cons n rest ih =>
      have hrest := ih fun m hm => hnamed m (List.mem_cons_of_mem n hm)
      by_cases hkind : n.kind = .method
      · obtain ⟨m, hm⟩ := MethodFound.exists_ofNode? (hnamed n List.mem_cons_self hkind)
        rw [foundIn_cons_of_method hkind hm, List.filter_cons, List.filter_cons]
        by_cases hmade : m.name = constructorName
        · have hout : isEndpoint n = false := by
            simp [isEndpoint, ← name_ofNode? hm, hmade]
          simp [hmade, hout, hrest]
        · have hin : isEndpoint n = true := by
            simp [isEndpoint, hkind, ← name_ofNode? hm, hmade]
          rw [if_pos (by simpa using hmade), if_pos hin, List.map_cons, List.map_cons, hrest,
            name_ofNode? hm]
      · have hout : isEndpoint n = false := by simp [isEndpoint, hkind]
        rw [foundIn_cons_of_ne hkind, hrest, List.filter_cons, hout]
        rfl

/-- The endpoints of a body in order: one for each method, with what the method counts. -/
theorem endpointsOf_eq {body : Node} (h : InOrder body.children) :
    endpointsOf body = ((windows (memberDecorators body) body.start (foundIn body.children)).filter
      fun (m, _) => m.name != constructorName).map fun (m, window) =>
        Endpoint.ofMethod m window := by
  unfold endpointsOf markedMethods
  rw [methodsOf_eq h]

/-- A window is left out with its method. -/
theorem map_fst_filter_windows (decorators : List Decorator) (start : Nat)
    (methods : List MethodFound) :
    ((windows decorators start methods).filter fun (m, _) => m.name != constructorName).map
      Prod.fst = methods.filter fun m => m.name != constructorName := by
  conv_rhs => rw [← map_fst_windows decorators start methods, List.filter_map]
  rfl

theorem map_name_endpointsOf {body : Node} (h : InOrder body.children) :
    (endpointsOf body).map (·.name) =
      (body.children.filter isEndpoint).map (·.childText .name) := by
  rw [endpointsOf_eq h, ← map_name_foundIn h.named,
    ← map_fst_filter_windows (memberDecorators body) body.start, List.map_map, List.map_map]
  rfl

/-- The endpoint of a method is made of its window, and stands where the method does. -/
theorem getElem?_endpointsOf {body : Node} (h : InOrder body.children) {before after : List Node}
    {n : Node} (hsplit : body.children = before ++ n :: after) (hn : isEndpoint n = true)
    {m : MethodFound} (hm : MethodFound.ofNode? n = some m) :
    (endpointsOf body)[(before.filter isEndpoint).length]? =
      some (Endpoint.ofMethod m (windowOf body before m)) := by
  have hparts : n.kind = .method ∧ n.childText .name ≠ constructorName := by
    simpa [isEndpoint] using hn
  have hnamed : ∀ n ∈ before, n.kind = .method → (n.child? .name).isSome := by
    intro n hn
    exact h.named n (by simp [hsplit, hn])
  have hfound : foundIn body.children = foundIn before ++ m :: foundIn after := by
    rw [hsplit, foundIn_append, foundIn_cons_of_method hparts.1 hm]
  -- as many endpoints stand before it as methods that are no constructor
  have hlength : (before.filter isEndpoint).length =
      ((windows (memberDecorators body) body.start (foundIn before)).filter
        fun (m, _) => m.name != constructorName).length := by
    have hnames := congrArg List.length (map_name_foundIn hnamed)
    rwa [← map_fst_filter_windows (memberDecorators body) body.start, List.length_map,
      List.length_map, List.length_map, eq_comm] at hnames
  rw [endpointsOf_eq h, hfound, windows_append, List.filter_append, List.filter_cons,
    if_pos (by simpa [name_ofNode? hm] using hparts.2), List.map_append, hlength]
  rw [List.getElem?_append_right (Nat.le_of_eq (List.length_map _)), List.length_map, Nat.sub_self]
  rfl

end RoleAudit
