import RoleAudit.Proofs.Controller.Nearest

/-!
# Stretches of a class body

The window of a method, said without places: the decorators that stand between the method before it,
or the beginning of the body, and the method, and then its own.

- `stretches`: the methods among some members, each with its stretch;
- `endpointsOf_eq_stretches`: the endpoints of a body in order are made of these;
- `nearest?_eq_getLast?`: the nearest decorator of a purpose is the last one of a stretch.
-/

namespace RoleAudit

open Syntax

/-- The methods among some members, each with the decorators since the method before it. -/
def stretches : List Decorator → List Node → List (MethodFound × List Decorator)
  | _, [] => []
  | pending, n :: rest =>
    match foundIn [n] with
    | m :: _ => (m, pending ++ ownMarks n) :: stretches [] rest
    | [] => stretches (pending ++ ownMarks n) rest

theorem stretches_cons_of_method {n : Node} (hkind : n.kind = .method) {m : MethodFound}
    (hm : MethodFound.ofNode? n = some m) (pending : List Decorator) (rest : List Node) :
    stretches pending (n :: rest) = (m, pending ++ ownMarks n) :: stretches [] rest := by
  rw [stretches, foundIn_cons_of_method hkind hm]

theorem stretches_cons_of_ne {n : Node} (hkind : n.kind ≠ .method) (pending : List Decorator)
    (rest : List Node) :
    stretches pending (n :: rest) = stretches (pending ++ ownMarks n) rest := by
  rw [stretches, foundIn_eq_nil (by simpa using hkind)]

/-- Places that come after each other, with decorators that are not yet given to a method. -/
structure Waiting (low : Nat) (pending : List Decorator) (members : List Node) : Prop where
  named : ∀ n ∈ members, n.kind = .method → (n.child? .name).isSome
  ascending : (pending.map (·.place) ++ anchorsOf members).Pairwise (· < ·)
  above : ∀ p ∈ pending.map (·.place) ++ anchorsOf members, low ≤ p

namespace Waiting

variable {low : Nat} {pending : List Decorator} {n : Node} {rest : List Node}

theorem anchorsOf_cons (n : Node) (rest : List Node) : anchorsOf (n :: rest) =
    (ownMarks n).map (·.place) ++ ((foundIn [n]).map (·.place) ++ anchorsOf rest) := by
  rw [← List.singleton_append, anchorsOf_append]
  simp [anchorsOf]

theorem exists_found (h : Waiting low pending (n :: rest)) (hkind : n.kind = .method) :
    ∃ m, MethodFound.ofNode? n = some m :=
  MethodFound.exists_ofNode? (h.named n List.mem_cons_self hkind)

/-- Decorators of what is no method wait for the next one. -/
theorem of_ne (h : Waiting low pending (n :: rest)) (hkind : n.kind ≠ .method) :
    Waiting low (pending ++ ownMarks n) rest := by
  have hfound : foundIn [n] = [] := foundIn_eq_nil (by simpa using hkind)
  have hplaces : (pending ++ ownMarks n).map (·.place) ++ anchorsOf rest =
      pending.map (·.place) ++ anchorsOf (n :: rest) := by
    rw [anchorsOf_cons, hfound, List.map_append, List.append_assoc]
    rfl
  refine ⟨fun c hc => h.named c (List.mem_cons_of_mem n hc), ?_, ?_⟩
  · rw [hplaces]
    exact h.ascending
  · rw [hplaces]
    exact h.above

section Method

variable {m : MethodFound} (h : Waiting low pending (n :: rest)) (hkind : n.kind = .method)
  (hm : MethodFound.ofNode? n = some m)

include h hkind hm

omit h in
theorem places_eq : pending.map (·.place) ++ anchorsOf (n :: rest) =
    (pending ++ ownMarks n).map (·.place) ++ m.place :: anchorsOf rest := by
  rw [anchorsOf_cons, foundIn_cons_of_method hkind hm, foundIn_eq_nil (by simp), List.map_append,
    List.append_assoc]
  rfl

/-- What waits before a method stands before its name. -/
theorem place_lt : ∀ d ∈ pending ++ ownMarks n, low ≤ d.place ∧ d.place < m.place := by
  have hpairs := h.ascending
  have habove := h.above
  rw [places_eq hkind hm] at hpairs habove
  intro d hd
  have hplace : d.place ∈ (pending ++ ownMarks n).map (·.place) := List.mem_map_of_mem hd
  refine ⟨habove d.place (List.mem_append_left _ hplace), ?_⟩
  exact (List.pairwise_append.1 hpairs).2.2 d.place hplace m.place List.mem_cons_self

theorem low_le : low ≤ m.place := by
  have habove := h.above
  rw [places_eq hkind hm] at habove
  exact habove m.place (List.mem_append_right _ List.mem_cons_self)

/-- Behind a method nothing waits, and everything stands behind its name. -/
theorem of_method : Waiting m.place [] rest := by
  have hpairs := h.ascending
  rw [places_eq hkind hm] at hpairs
  obtain ⟨hlater, hrest⟩ := List.pairwise_cons.1 (List.pairwise_append.1 hpairs).2.1
  exact ⟨fun c hc => h.named c (List.mem_cons_of_mem n hc), hrest,
    fun p hp => Nat.le_of_lt (hlater p hp)⟩

theorem lt_place : ∀ p ∈ anchorsOf rest, m.place < p := by
  have hpairs := h.ascending
  rw [places_eq hkind hm] at hpairs
  exact (List.pairwise_cons.1 (List.pairwise_append.1 hpairs).2.1).1

/-- Of all decorators just those are in the window of a method that wait before it. -/
theorem filter_window {passed : List Decorator} (hpassed : ∀ d ∈ passed, d.place < low) :
    (passed ++ ((pending ++ ownMarks n) ++ rest.flatMap ownMarks)).filter
      (fun d => low ≤ d.place && d.place < m.place) = pending ++ ownMarks n := by
  -- what was passed stands before, and what is left stands behind
  have hout : passed.filter (fun d => low ≤ d.place && d.place < m.place) = [] :=
    List.filter_eq_nil_iff.2 fun d hd => by
      have := hpassed d hd
      simp
      omega
  have hin : (pending ++ ownMarks n).filter
      (fun d => low ≤ d.place && d.place < m.place) = pending ++ ownMarks n :=
    List.filter_eq_self.2 fun d hd => by simpa using h.place_lt hkind hm d hd
  have hlater : (rest.flatMap ownMarks).filter
      (fun d => low ≤ d.place && d.place < m.place) = [] :=
    List.filter_eq_nil_iff.2 fun d hd => by
      have := h.lt_place hkind hm d.place (place_mem_anchorsOf hd)
      simp
      omega
  rw [List.filter_append, List.filter_append, hout, hin, hlater, List.append_nil,
    List.nil_append]

end Method

end Waiting

/-- Where decorators and names come one after the other, windows are stretches. -/
theorem windows_eq_stretches {low : Nat} {pending : List Decorator} {members : List Node}
    (h : Waiting low pending members) (passed : List Decorator)
    (hpassed : ∀ d ∈ passed, d.place < low) :
    windows (passed ++ pending ++ members.flatMap ownMarks) low (foundIn members) =
      stretches pending members := by
  induction members generalizing low pending passed with
  | nil => rfl
  | cons n rest ih =>
      by_cases hkind : n.kind = .method
      · -- a method takes what waits, and nothing waits for the next one
        obtain ⟨m, hm⟩ := h.exists_found hkind
        have hall : passed ++ pending ++ (n :: rest).flatMap ownMarks =
            passed ++ ((pending ++ ownMarks n) ++ rest.flatMap ownMarks) := by
          simp only [List.flatMap_cons, List.append_assoc]
        have hbefore : ∀ d ∈ passed ++ (pending ++ ownMarks n), d.place < m.place := by
          intro d hd
          rcases List.mem_append.1 hd with hd | hd
          · exact Nat.lt_of_lt_of_le (hpassed d hd) (h.low_le hkind hm)
          · exact (h.place_lt hkind hm d hd).2
        have hrest := ih (h.of_method hkind hm) (passed ++ (pending ++ ownMarks n)) hbefore
        rw [List.append_nil, List.append_assoc] at hrest
        rw [hall, foundIn_cons_of_method hkind hm, windows, h.filter_window hkind hm hpassed, hrest,
          stretches_cons_of_method hkind hm]
      · -- the decorators of another member wait
        rw [foundIn_cons_of_ne hkind, stretches_cons_of_ne hkind,
          ← ih (h.of_ne hkind) passed hpassed]
        simp only [List.flatMap_cons, List.append_assoc]

/-- The endpoints of a body in order, from which no decorator or name stands apart. -/
theorem endpointsOf_eq_stretches {body : Node} (h : InOrder body.children)
    (hstart : ∀ p ∈ anchorsOf body.children, body.start ≤ p) :
    endpointsOf body = ((stretches [] body.children).filter fun (m, _) =>
      m.name != constructorName).map fun (m, stretch) => Endpoint.ofMethod m stretch := by
  have hwaiting : Waiting body.start [] body.children := ⟨h.named, h.ascending, hstart⟩
  rw [endpointsOf_eq h, memberDecorators_eq, ← windows_eq_stretches hwaiting [] nofun]
  rfl

/-- The stretches of members hold decorators one after the other. -/
theorem pairwise_of_mem_stretches {low : Nat} {pending : List Decorator} {members : List Node}
    (h : Waiting low pending members) {m : MethodFound} {stretch : List Decorator}
    (hmem : (m, stretch) ∈ stretches pending members) :
    stretch.Pairwise fun a b => a.place < b.place := by
  induction members generalizing low pending with
  | nil => cases hmem
  | cons n rest ih =>
      by_cases hkind : n.kind = .method
      · obtain ⟨found, hm⟩ := h.exists_found hkind
        rw [stretches_cons_of_method hkind hm] at hmem
        rcases List.mem_cons.1 hmem with heq | hmem
        · cases heq
          have hpairs := h.ascending
          rw [Waiting.places_eq hkind hm] at hpairs
          exact List.pairwise_map.1 (List.pairwise_append.1 hpairs).1
        · exact ih (h.of_method hkind hm) hmem
      · rw [stretches_cons_of_ne hkind] at hmem
        exact ih (h.of_ne hkind) hmem

/-! ## The nearest decorator -/

/-- Of decorators one after the other the nearest is the last one. -/
theorem nearest?_eq_getLast? (names : List String) {stretch : List Decorator}
    (h : stretch.Pairwise fun a b => a.place < b.place) :
    Decorator.nearest? names stretch =
      (stretch.filter fun d => names.contains d.name).getLast? := by
  -- a later decorator takes the place of the best one before it
  have hfold : ∀ (rest : List Decorator) (best : Decorator),
      (best :: rest).Pairwise (fun a b => a.place < b.place) →
        rest.foldl Decorator.later best = (best :: rest).getLast (by simp) := by
    intro rest
    induction rest with
    | nil => exact fun best _ => rfl
    | cons d rest ih =>
        intro best hpairs
        obtain ⟨hbest, hrest⟩ := List.pairwise_cons.1 hpairs
        have hlater : Decorator.later best d = d := if_pos (hbest d List.mem_cons_self)
        rw [List.foldl_cons, hlater, ih d hrest, List.getLast_cons_cons]
  have hkept := h.filter fun d => names.contains d.name
  unfold Decorator.nearest?
  cases hfilter : stretch.filter fun d => names.contains d.name with
  | nil => rfl
  | cons d rest =>
      rw [hfilter] at hkept
      rw [List.getLast?_eq_getLast_of_ne_nil (by simp), ← hfold rest d hkept]

end RoleAudit
