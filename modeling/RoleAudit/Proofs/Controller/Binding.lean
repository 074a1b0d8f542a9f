import RoleAudit.Proofs.Audit.Guards
import RoleAudit.Proofs.Syntax.Statements

/-!
# What a decorator is written on

A method counts the decorators between the name of the method before it and its own name. In the
body of a class every decorator stands right before a decorator or a method, so these are the ones
that are written on the method: no other member stands between.

- `WrittenOn`: a decorator stands before a method in the body of a class, and no member between;
- `exists_method_after`: a decorator is written on the next method;
- `writtenOn_of_mem_windows`: what a method counts is written on it;
- `endpoints_marked`: so every fact of an endpoint comes from a decorator that is written on it.
-/

namespace RoleAudit

open Syntax

/-! ## Decorators and methods of a body -/

/-- A decorator stands before a method, and there is no member of the class between them. -/
def WrittenOn (body : Node) (d : Decorator) (m : MethodFound) : Prop :=
  ∃ before mark between after, body.children = before ++ mark :: (between ++ m.node :: after) ∧
    mark.kind = .decorator ∧ Decorator.ofNode mark = d ∧
    ∀ n ∈ between, n.kind = .decorator ∨ n.kind = .comment

@[simp]
theorem Decorator.place_ofNode (n : Node) : (Decorator.ofNode n).place = n.start := by
  unfold Decorator.ofNode
  split
  · rfl
  · dsimp only
    split
    · split <;> rfl
    · rfl

/-- A method is found where its name starts. -/
theorem MethodFound.ofNode?_eq_some {n : Node} {m : MethodFound}
    (h : MethodFound.ofNode? n = some m) : m.node = n ∧ n.face.name = some m.place := by
  unfold MethodFound.ofNode? at h
  rcases Option.map_eq_some_iff.1 h with ⟨name, hname, rfl⟩
  exact ⟨rfl, by simp [Node.face, hname]⟩

theorem mem_methodsOf {body : Node} {m : MethodFound} : m ∈ methodsOf body ↔
    ∃ n ∈ body.children, n.kind = .method ∧ MethodFound.ofNode? n = some m := by
  unfold methodsOf
  rw [(ordered_perm _).mem_iff, List.mem_filterMap]
  constructor
  · rintro ⟨n, hn, hm⟩
    rcases List.mem_filter.1 hn with ⟨hn, hkind⟩
    exact ⟨n, hn, by simpa using hkind, hm⟩
  · rintro ⟨n, hn, hkind, hm⟩
    exact ⟨n, List.mem_filter.2 ⟨hn, by simpa using hkind⟩, hm⟩

theorem methodsOf_pairwise (body : Node) :
    (methodsOf body).Pairwise fun a b => a.place ≤ b.place := by
  refine (ordered_pairwise ?_ ?_ _).imp fun h => of_decide_eq_true h
  · intro a b
    simp only [decide_eq_true_eq]
    exact Nat.le_total _ _
  · intro a b c hab hbc
    simp only [decide_eq_true_eq] at hab hbc ⊢
    exact Nat.le_trans hab hbc

/-- The decorators of the members of a sound body stand beside its methods. -/
theorem exists_of_mem_memberDecorators {body : Node} (h : body.Sound) {d : Decorator}
    (hd : d ∈ memberDecorators body) :
    ∃ mark ∈ body.children, mark.kind = .decorator ∧ Decorator.ofNode mark = d := by
  unfold memberDecorators at hd
  rcases List.mem_flatMap.1 hd with ⟨c, hc, hd⟩
  split at hd
  · rename_i hkind
    exact ⟨c, hc, hkind, (List.mem_singleton.1 hd).symm⟩
  · -- there are no decorators inside a method
    rename_i hkind
    unfold decoratorsOf at hd
    rcases List.mem_map.1 hd with ⟨inner, hinner, -⟩
    rcases List.mem_filter.1 hinner with ⟨hinner, hmark⟩
    have hshape := (h.children c hc).shapely
    rw [hkind] at hshape
    exact absurd (by simpa using hmark) (hshape inner hinner)
  · cases hd

/-- A decorator is written on the next method. -/
theorem exists_method_after {mark : Node} (hmark : mark.kind = .decorator) {after : List Node}
    (h : Led (faces (mark :: after))) : ∃ between method rest,
      after = between ++ method :: rest ∧ method.kind = .method ∧
        ∀ n ∈ between, n.kind = .decorator ∨ n.kind = .comment := by
  induction after generalizing mark with
  | nil =>
      rw [faces_cons (by simp [hmark])] at h
      cases h with
      | plain hplain _ => exact absurd hmark hplain
  | cons n after ih =>
      rw [faces_cons (by simp [hmark])] at h
      by_cases hcomment : n.kind = .comment
      · -- a comment is passed, and the decorator still waits for its method
        rw [faces_cons_comment hcomment] at h
        rcases ih hmark (by rwa [faces_cons (by simp [hmark])]) with
          ⟨between, method, rest, rfl, hmethod, hbetween⟩
        refine ⟨n :: between, method, rest, rfl, hmethod, ?_⟩
        exact List.forall_mem_cons.2 ⟨.inr hcomment, hbetween⟩
      · rw [faces_cons hcomment] at h
        cases h with
        | plain hplain _ => exact absurd hmark hplain
        | mark _ hnext hrest =>
            rcases hnext with hnext | hnext
            · rcases ih hnext (by rwa [faces_cons hcomment]) with
                ⟨between, method, rest, rfl, hmethod, hbetween⟩
              refine ⟨n :: between, method, rest, rfl, hmethod, ?_⟩
              exact List.forall_mem_cons.2 ⟨.inl hnext, hbetween⟩
            · exact ⟨[], n, after, rfl, hnext, nofun⟩

/-! ## Windows -/

/-- A method counts decorators from the place of any method before it up to its own. -/
theorem place_of_mem_windows {decorators : List Decorator} {low : Nat} {methods : List MethodFound}
    (hordered : methods.Pairwise fun a b => a.place ≤ b.place) {m : MethodFound}
    {window : List Decorator} (h : (m, window) ∈ windows decorators low methods) {d : Decorator}
    (hd : d ∈ window) : d ∈ decorators ∧ d.place < m.place ∧
      ((∀ other ∈ methods, low ≤ other.place) → low ≤ d.place) ∧
      ∀ other ∈ methods, other.place < m.place → other.place ≤ d.place := by
  induction methods generalizing low with
  | nil => cases h
  | cons first rest ih =>
      have hfirst := List.pairwise_cons.1 hordered
      unfold windows at h
      rcases List.mem_cons.1 h with heq | h
      · -- no method is before the first one
        cases heq
        rcases List.mem_filter.1 hd with ⟨hd, hplace⟩
        have hbounds : low ≤ d.place ∧ d.place < m.place := by simpa using hplace
        refine ⟨hd, hbounds.2, fun _ => hbounds.1, fun other hother hbefore => ?_⟩
        rcases List.mem_cons.1 hother with rfl | hother
        · exact absurd hbefore (Nat.lt_irrefl _)
        · exact absurd (hfirst.1 other hother) (Nat.not_le_of_lt hbefore)
      · -- the places of the others begin with the one of the first
        rcases ih hfirst.2 h with ⟨hmem, hplace, hlow, hothers⟩
        have hafter : first.place ≤ d.place := hlow hfirst.1
        refine ⟨hmem, hplace, fun hall => ?_, fun other hother hbefore => ?_⟩
        · exact Nat.le_trans (hall first List.mem_cons_self) hafter
        · rcases List.mem_cons.1 hother with rfl | hother
          · exact hafter
          · exact hothers other hother hbefore

theorem mem_of_mem_windows {decorators : List Decorator} {low : Nat} {methods : List MethodFound}
    {m : MethodFound} {window : List Decorator} (h : (m, window) ∈ windows decorators low methods) :
    m ∈ methods := by
  induction methods generalizing low with
  | nil => cases h
  | cons first rest ih =>
      unfold windows at h
      rcases List.mem_cons.1 h with heq | h
      · cases heq
        exact List.mem_cons_self
      · exact List.mem_cons_of_mem first (ih h)

/-- In an orderly body the places of what stands earlier are smaller. -/
theorem anchor_lt_of_append {ns ms : List Node} (h : Orderly (faces (ns ++ ms))) {n m : Node}
    (hn : n ∈ ns) (hm : m ∈ ms) {p q : Nat} (hp : n.face.anchor? = some p)
    (hq : m.face.anchor? = some q) : p < q := by
  have hshown : ∀ {ns : List Node} {n : Node} {p : Nat}, n ∈ ns → n.face.anchor? = some p →
      p ∈ (faces ns).filterMap Face.anchor? := by
    intro ns n p hn hp
    have hkind : n.kind ≠ .comment := fun hkind => by simp [Face.anchor?, Node.face, hkind] at hp
    refine List.mem_filterMap.2 ⟨n.face, List.mem_map.2 ⟨n, ?_, rfl⟩, hp⟩
    exact List.mem_filter.2 ⟨hn, by simpa using hkind⟩
  have hpairs := h.ascending
  rw [faces_append, List.filterMap_append] at hpairs
  exact (List.pairwise_append.1 hpairs).2.2 p (hshown hn hp) q (hshown hm hq)

theorem anchor?_of_decorator {n : Node} (h : n.kind = .decorator) :
    n.face.anchor? = some n.start := by
  simp [Face.anchor?, Node.face, h]

theorem anchor?_of_method {n : Node} (h : n.kind = .method) {m : MethodFound}
    (hm : MethodFound.ofNode? n = some m) : n.face.anchor? = some m.place := by
  have hname := (MethodFound.ofNode?_eq_some hm).2
  simpa [Face.anchor?, Node.face, h] using hname

theorem MethodFound.exists_ofNode? {n : Node} (h : (n.child? .name).isSome) :
    ∃ m, ofNode? n = some m := by
  obtain ⟨name, hname⟩ := Option.isSome_iff_exists.1 h
  exact ⟨_, by rw [ofNode?, hname]; rfl⟩

/-- Every method of an orderly body is found. -/
theorem exists_methodFound {ns : List Node} (h : Orderly (faces ns)) {n : Node} (hn : n ∈ ns)
    (hkind : n.kind = .method) : ∃ m, MethodFound.ofNode? n = some m := by
  have hface : n.face ∈ faces ns :=
    List.mem_map.2 ⟨n, List.mem_filter.2 ⟨hn, by simp [hkind]⟩, rfl⟩
  have hname : n.face.name.isSome := h.named n.face hface hkind
  exact MethodFound.exists_ofNode? (by simpa [Node.face] using hname)

/-- A method stands before a decorator, or is the one the decorator is written on, or is later. -/
theorem next_method {before between after : List Node} {mark method : Node}
    (horderly : Orderly (faces (before ++ mark :: (between ++ method :: after))))
    (hmark : mark.kind = .decorator) (hmethod : method.kind = .method)
    (hbetween : ∀ n ∈ between, n.kind = .decorator ∨ n.kind = .comment) {next : MethodFound}
    (hnext : MethodFound.ofNode? method = some next) :
    mark.start < next.place ∧
      ∀ n ∈ before ++ mark :: (between ++ method :: after), n.kind = .method →
        ∀ m, MethodFound.ofNode? n = some m →
          m.place < mark.start ∨ n = method ∨ next.place < m.place := by
  have hmarkAnchor := anchor?_of_decorator hmark
  have hnextAnchor := anchor?_of_method hmethod hnext
  constructor
  · have hregroup : before ++ mark :: (between ++ method :: after) =
        (before ++ [mark]) ++ (between ++ method :: after) := by simp
    rw [hregroup] at horderly
    exact anchor_lt_of_append horderly (by simp) (by simp) hmarkAnchor hnextAnchor
  · intro n hn hkind m hm
    have hanchor := anchor?_of_method hkind hm
    -- it stands before the decorator, between both, or from the method on
    rcases List.mem_append.1 hn with hn | hn
    · exact .inl (anchor_lt_of_append horderly hn List.mem_cons_self hanchor hmarkAnchor)
    rcases List.mem_cons.1 hn with rfl | hn
    · simp [hmark] at hkind
    rcases List.mem_append.1 hn with hn | hn
    · rcases hbetween n hn with hother | hother <;> simp [hkind] at hother
    rcases List.mem_cons.1 hn with hn | hn
    · exact .inr (.inl hn)
    · have hregroup : before ++ mark :: (between ++ method :: after) =
          (before ++ mark :: (between ++ [method])) ++ after := by simp
      rw [hregroup] at horderly
      exact .inr (.inr (anchor_lt_of_append horderly (by simp) hn hnextAnchor hanchor))

/-- What a method of a class counts is written on it. -/
theorem writtenOn_of_mem_windows {body : Node} (hsound : body.Sound)
    (hkind : body.kind = .classBody) {m : MethodFound} {window : List Decorator}
    (h : (m, window) ∈ windows (memberDecorators body) body.start (methodsOf body)) {d : Decorator}
    (hd : d ∈ window) : WrittenOn body d m := by
  have horderly : Orderly (faces body.children) := by
    have hshape := hsound.shapely
    rw [hkind] at hshape
    exact hshape
  rcases place_of_mem_windows (methodsOf_pairwise body) h hd with ⟨hmember, hbefore, -, hothers⟩
  rcases exists_of_mem_memberDecorators hsound hmember with ⟨mark, hmark, hmarkKind, rfl⟩
  rcases mem_methodsOf.1 (mem_of_mem_windows h) with ⟨n, hn, hnKind, hfound⟩
  rcases MethodFound.ofNode?_eq_some hfound with ⟨rfl, -⟩
  rw [Decorator.place_ofNode] at hbefore hothers
  rcases List.append_of_mem hmark with ⟨before, rest, hsplit⟩
  have hled : Led (faces (mark :: rest)) := by
    have hall := horderly.led
    rw [hsplit, faces_append] at hall
    exact hall.of_append
  rcases exists_method_after hmarkKind hled with
    ⟨between, method, after, rfl, hmethod, hbetween⟩
  have hmem : method ∈ body.children := by simp [hsplit]
  rcases exists_methodFound horderly hmem hmethod with ⟨next, hnext⟩
  rw [hsplit] at horderly hn
  rcases next_method horderly hmarkKind hmethod hbetween hnext with ⟨hafter, hplaces⟩
  rcases hplaces m.node hn hnKind m hfound with hearlier | hsame | hlater
  · exact absurd hearlier (Nat.lt_asymm hbefore)
  · exact ⟨before, mark, between, after, hsame ▸ hsplit, hmarkKind, rfl, hbetween⟩
  · -- a later method does not count what stands before the next one
    have hnextFound : next ∈ methodsOf body := mem_methodsOf.2 ⟨method, hmem, hmethod, hnext⟩
    exact absurd hafter (Nat.not_lt_of_le (hothers next hnextFound hlater))

/-! ## Facts and decorators -/

/-- What an endpoint has by decorators comes from decorators that are written on its method. -/
structure Endpoint.MarkedBy (e : Endpoint) (body : Node) (m : MethodFound) : Prop where
  name : e.name = m.name
  action : e.action ≠ "" → ∃ d, WrittenOn body d m ∧ d.name ∈ actionMarks ∧
    Text.upper d.name = e.action
  route : ∀ path, e.route = some path → ∃ d, WrittenOn body d m ∧ d.name ∈ actionMarks ∧
    d.arguments.head?.getD "" = path
  roles : e.roles ≠ [] → ∃ d, WrittenOn body d m ∧ d.name ∈ roleMarks ∧ d.arguments = e.roles
  policy : e.policy ≠ "" → ∃ d, WrittenOn body d m ∧ d.name ∈ policyMarks ∧
    d.constructed.head? = some e.policy

theorem markedBy_ofMethod {body : Node} {m : MethodFound} {window : List Decorator}
    (h : ∀ d ∈ window, WrittenOn body d m) : (Endpoint.ofMethod m window).MarkedBy body m := by
  have hnearest : ∀ {names d}, Decorator.nearest? names window = some d →
      WrittenOn body d m ∧ d.name ∈ names := by
    intro names d hd
    have hmem := mem_of_nearest?_eq_some hd
    exact ⟨h d hmem.1, hmem.2⟩
  -- what an endpoint says by default is not said by a decorator
  refine ⟨rfl, fun haction => ?_, fun path hroute => ?_, fun hroles => ?_, fun hpolicy => ?_⟩
  · cases hmark : Decorator.nearest? actionMarks window with
    | none => simp [Endpoint.ofMethod, hmark] at haction
    | some d =>
        exact ⟨d, (hnearest hmark).1, (hnearest hmark).2, by simp [Endpoint.ofMethod, hmark]⟩
  · rcases Option.map_eq_some_iff.1 hroute with ⟨d, hmark, hpath⟩
    exact ⟨d, (hnearest hmark).1, (hnearest hmark).2, hpath⟩
  · cases hmark : Decorator.nearest? roleMarks window with
    | none => simp [Endpoint.ofMethod, hmark] at hroles
    | some d =>
        exact ⟨d, (hnearest hmark).1, (hnearest hmark).2, by simp [Endpoint.ofMethod, hmark]⟩
  · cases hmark : Decorator.nearest? policyMarks window with
    | none => simp [Endpoint.ofMethod, hmark] at hpolicy
    | some d =>
        refine ⟨d, (hnearest hmark).1, (hnearest hmark).2, ?_⟩
        cases hfirst : d.constructed.head? with
        | none => simp [Endpoint.ofMethod, hmark, hfirst] at hpolicy
        | some c => simp [Endpoint.ofMethod, hmark, hfirst]

theorem mem_of_selected?_eq_some {found : List ClassFound} {c : ClassFound}
    (h : selected? found = some c) : c ∈ found := by
  unfold selected? at h
  split at h
  · rename_i hfind
    cases h
    exact List.mem_of_find?_eq_some hfind
  · exact List.mem_of_head? h

/--
In every class of a sound tree, a decorator that counts for a method is written on that method:
between them stands no method, property, signature or static block, of any name. So the verb, the
route, the roles and the policy of every endpoint come from decorators that are written on its
method. The tree of every source is sound.
-/
theorem endpoints_marked :
    (∀ source, (Node.ofSource source).Sound ∧
      ControllerFacts.ofSource source = ControllerFacts.ofTree (Node.ofSource source)) ∧
    ∀ root : Node, root.Sound →
      (∀ c ∈ classes root, ∀ m window, (m, window) ∈ markedMethods c.body →
        (∀ names d, Decorator.nearest? names window = some d → WrittenOn c.body d m) ∧
          (Endpoint.ofMethod m window).MarkedBy c.body m) ∧
      ∀ e ∈ (ControllerFacts.ofTree root).endpoints,
        ∃ c ∈ classes root, ∃ m window,
          (m, window) ∈ markedMethods c.body ∧ e = Endpoint.ofMethod m window := by
  refine ⟨fun source => ⟨sound_ofSource source, rfl⟩, fun root hroot => ⟨?_, ?_⟩⟩
  · intro c hc m window hmarked
    rcases body_of_mem_classes hroot hc with ⟨hsound, hkind⟩
    -- what is nearest of a purpose is one of the decorators that count
    have hwindow : ∀ d ∈ window, WrittenOn c.body d m := fun d hd =>
      writtenOn_of_mem_windows hsound hkind (List.mem_filter.1 hmarked).1 hd
    exact ⟨fun names d hd => hwindow d (mem_of_nearest?_eq_some hd).1, markedBy_ofMethod hwindow⟩
  · intro e he
    cases hclass : selected? (classes root) with
    | none =>
        unfold ControllerFacts.ofTree at he
        simp [hclass] at he
    | some c =>
        rw [endpoints_ofTree hclass] at he
        rcases List.mem_map.1 he with ⟨⟨m, window⟩, hmarked, rfl⟩
        exact ⟨c, mem_of_selected?_eq_some hclass, m, window, hmarked, rfl⟩

/-- A class with a property and a static block between two methods. -/
def mixedSource : String :=
  "class A\x7b@Get()b()\x7b\x7d@C()d;static\x7b\x7d@Roles('R')@Put()e()\x7b\x7d\x7d"

theorem endpoints_marked_mixedSource :
    ∃ c ∈ classes (Node.ofSource mixedSource), ∃ m window, (m, window) ∈ markedMethods c.body ∧
      m.name = "e" ∧ ∃ d, Decorator.nearest? actionMarks window = some d ∧ d.name = "Put" ∧
        WrittenOn c.body d m := by
  have hfound : (classes (Node.ofSource mixedSource)).map (fun c =>
      (markedMethods c.body).map fun marked =>
        (marked.1.name, (Decorator.nearest? actionMarks marked.2).map (·.name))) =
      [[("b", some "Get"), ("e", some "Put")]] := by
    decide +kernel
  have hclass : [("b", some "Get"), ("e", some "Put")] ∈
      (classes (Node.ofSource mixedSource)).map (fun c =>
        (markedMethods c.body).map fun marked =>
          (marked.1.name, (Decorator.nearest? actionMarks marked.2).map (·.name))) := by
    simp [hfound]
  rcases List.mem_map.1 hclass with ⟨c, hc, hmethods⟩
  have hmethod : ("e", some "Put") ∈ (markedMethods c.body).map (fun marked =>
      (marked.1.name, (Decorator.nearest? actionMarks marked.2).map (·.name))) := by
    simp [hmethods]
  rcases List.mem_map.1 hmethod with ⟨⟨m, window⟩, hmarked, hentry⟩
  rcases Prod.mk.inj hentry with ⟨hname, hmark⟩
  rcases Option.map_eq_some_iff.1 hmark with ⟨d, hnearest, hput⟩
  exact ⟨c, hc, m, window, hmarked, hname, d, hnearest, hput,
    ((endpoints_marked.2 _ (endpoints_marked.1 mixedSource).1).1 c hc m window hmarked).1
      actionMarks d hnearest⟩

end RoleAudit
