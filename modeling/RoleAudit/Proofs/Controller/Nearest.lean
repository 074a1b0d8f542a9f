import Mathlib.Data.List.Nodup
import RoleAudit.Proofs.Controller.Windows
import RoleAudit.Proofs.Syntax.Shift

/-!
# The nearest decorators

Every endpoint has its verb, roles and policy from the last decorator of each purpose in the window
of its method, and from nothing else.

- `Last`: the last decorator of a purpose among those that count;
- `scan`: all nodes of a tree, each with the nodes above it; the decorators of members are those
  that stand in the body itself or in a method of the body;
- `Decorator.moved`, `MethodFound.shift`: decorators and methods further back, which say the same;
- `SameWindow`: two bodies agree on one method and on the decorators before it, up to their places;
- `facts_nearest`: the endpoints of a class, what each is made of, and what it does not depend on.
-/

namespace RoleAudit

open Syntax

/-! ## The last decorator of a purpose -/

/-- The last decorator with one of some names among those that count, if there is one. -/
inductive Last (names : List String) (counts : Decorator → Prop) : Option Decorator → Prop
  | none (hnone : ∀ d, counts d → d.name ∉ names) : Last names counts none
  | some {d : Decorator} (hd : counts d) (hname : d.name ∈ names)
      (hlast : ∀ other, counts other → other.name ∈ names → other = d ∨ other.place < d.place) :
      Last names counts (some d)

theorem place_le_foldl_later (rest : List Decorator) (best : Decorator) :
    ∀ d ∈ best :: rest, d.place ≤ (rest.foldl Decorator.later best).place := by
  induction rest generalizing best with
  | nil => exact fun d hd => Nat.le_of_eq (congrArg _ (List.mem_singleton.1 hd))
  | cons next rest ih =>
      -- the later of the two first ones stands behind both
      have hlater : best.place ≤ (Decorator.later best next).place ∧
          next.place ≤ (Decorator.later best next).place := by
        unfold Decorator.later
        split <;> omega
      have hfold := ih (Decorator.later best next)
      have hbest := hfold _ List.mem_cons_self
      intro d hd
      rw [List.foldl_cons]
      rcases List.mem_cons.1 hd with rfl | hd
      · exact Nat.le_trans hlater.1 hbest
      rcases List.mem_cons.1 hd with rfl | hd
      · exact Nat.le_trans hlater.2 hbest
      · exact hfold d (List.mem_cons_of_mem _ hd)

theorem last_nearest? (names : List String) {window : List Decorator}
    (h : window.Pairwise fun a b => a.place < b.place) :
    Last names (· ∈ window) (Decorator.nearest? names window) := by
  -- no two decorators of a window start at one place
  have hsame : ∀ a ∈ window, ∀ b ∈ window, a.place ≤ b.place → a = b ∨ a.place < b.place := by
    intro a ha b hb hle
    have hnodup : (window.map (·.place)).Nodup :=
      (List.pairwise_map.2 h).imp fun hlt => Nat.ne_of_lt hlt
    rcases Nat.lt_or_eq_of_le hle with hlt | heq
    · exact .inr hlt
    · exact .inl (List.inj_on_of_nodup_map hnodup ha hb heq)
  cases hnearest : Decorator.nearest? names window with
  | none =>
      refine .none fun d hd hname => ?_
      obtain ⟨mark, hmark⟩ := exists_nearest?_of_mem ⟨d, hd, hname⟩
      rw [hnearest] at hmark
      cases hmark
  | some d =>
      obtain ⟨hd, hname⟩ := mem_of_nearest?_eq_some hnearest
      refine .some hd hname fun other hother hotherName => hsame other hother d hd ?_
      have hmem : other ∈ window.filter fun d => names.contains d.name :=
        List.mem_filter.2 ⟨hother, by simpa using hotherName⟩
      unfold Decorator.nearest? at hnearest
      split at hnearest
      · cases hnearest
      · rename_i first rest hfilter
        rw [← Option.some.inj hnearest]
        exact place_le_foldl_later rest first other (hfilter ▸ hmem)

/-! ## Decorators of members -/

mutual

/-- The nodes of a tree, parents first and in source order, each with the nodes above it. -/
def scan (above : List Node) : Node → List (List Node × Node)
  | .mk kind role start line text children =>
    let n := Node.mk kind role start line text children
    (above, n) :: scanAll (n :: above) children

/-- The nodes of several trees, each with the nodes above it. -/
def scanAll (above : List Node) : List Node → List (List Node × Node)
  | [] => []
  | n :: rest => scan above n ++ scanAll above rest

end

/-- A decorator whose parent is the body, or a method whose parent is the body. -/
def isMemberMark : List Node × Node → Bool
  | ([_], n) => n.kind == .decorator
  | ([parent, _], n) => n.kind == .decorator && parent.kind == .method
  | _ => false

theorem scan_eq (above : List Node) (n : Node) :
    scan above n = (above, n) :: scanAll (n :: above) n.children := by
  cases n
  rw [scan]
  rfl

theorem scanAll_eq (above : List Node) (ns : List Node) :
    scanAll above ns = ns.flatMap (scan above) := by
  induction ns with
  | nil => rfl
  | cons n ns ih => rw [scanAll, ih, List.flatMap_cons]

mutual

theorem map_snd_scan (above : List Node) : ∀ n : Node, (scan above n).map Prod.snd = n.preorder
  | .mk kind role start line text children => by
    rw [scan_eq, List.map_cons, map_snd_scanAll, Node.preorder]
    rfl

theorem map_snd_scanAll (above : List Node) :
    ∀ ns : List Node, (scanAll above ns).map Prod.snd = Node.preorderAll ns
  | [] => rfl
  | n :: rest => by
    rw [scanAll, List.map_append, map_snd_scan above n, map_snd_scanAll above rest,
      Node.preorderAll]

end

mutual

theorem length_le_of_mem_scan {above : List Node} {entry : List Node × Node} :
    ∀ n : Node, entry ∈ scan above n → above.length ≤ entry.1.length
  | .mk kind role start line text children => by
    intro h
    rw [scan_eq] at h
    rcases List.mem_cons.1 h with rfl | h
    · exact Nat.le_refl _
    · exact Nat.le_of_succ_le (length_le_of_mem_scanAll children h)

theorem length_le_of_mem_scanAll {above : List Node} {entry : List Node × Node} :
    ∀ ns : List Node, entry ∈ scanAll above ns → above.length ≤ entry.1.length
  | [] => by
    intro h
    cases h
  | n :: rest => by
    intro h
    rcases List.mem_append.1 h with h | h
    · exact length_le_of_mem_scan n h
    · exact length_le_of_mem_scanAll rest h

end

/-- Nothing below the children of a member is a decorator of a member. -/
theorem filter_isMemberMark_below (parent body : Node) (ns : List Node) :
    (scanAll [parent, body] ns).filter isMemberMark =
      (ns.filter fun n => n.kind == .decorator && parent.kind == .method).map
        fun n => ([parent, body], n) := by
  rw [scanAll_eq]
  induction ns with
  | nil => rfl
  | cons n ns ih =>
      -- a decorator further below has more nodes above it than a member or its method
      have hdeep : (scanAll [n, parent, body] n.children).filter isMemberMark = [] := by
        refine List.filter_eq_nil_iff.2 fun entry hentry => ?_
        have hlength := length_le_of_mem_scanAll _ hentry
        unfold isMemberMark
        split <;> simp_all
      rw [List.flatMap_cons, List.filter_append, ih, scan_eq, List.filter_cons, hdeep]
      by_cases hmark : (n.kind == .decorator && parent.kind == .method) = true
      · rw [List.filter_cons, if_pos hmark, isMemberMark, if_pos hmark]
        rfl
      · rw [List.filter_cons, if_neg hmark, isMemberMark, if_neg hmark]
        rfl

/-- The decorators of the members are picked from the whole tree by what stands above them. -/
theorem memberDecorators_eq_scan (body : Node) :
    memberDecorators body =
      ((scan [] body).filter isMemberMark).map fun entry => Decorator.ofNode entry.2 := by
  have heach : ∀ c : Node, ownMarks c =
      ((scan [body] c).filter isMemberMark).map fun entry => Decorator.ofNode entry.2 := by
    intro c
    rw [scan_eq, List.filter_cons, filter_isMemberMark_below]
    unfold ownMarks
    cases hkind : c.kind <;> simp [isMemberMark, hkind, decoratorsOf, Function.comp_def]
  rw [memberDecorators_eq, scan_eq, List.filter_cons, if_neg (by simp [isMemberMark]), scanAll_eq,
    List.filter_flatMap, List.map_flatMap]
  exact List.flatMap_congr fun c _ => heach c

/-! ## Decorators and methods that are moved -/

/-- A decorator further back. -/
def Decorator.moved (places : Nat) (d : Decorator) : Decorator :=
  { d with place := d.place + places }

section Moved

variable (places lines : Nat)

@[simp]
theorem valueText_shift (n : Node) : valueText (n.shift places lines) = valueText n := by
  simp [valueText]

namespace Decorator

theorem nameOf_shift (target : Option Node) :
    nameOf (target.map (Node.shift places lines)) = nameOf target := by
  cases target <;> simp [nameOf]

theorem valuesOf_shift (argument : Node) :
    valuesOf (argument.shift places lines) = valuesOf argument := by
  simp [valuesOf, Function.comp_def]

theorem classOf_shift (construction : Node) :
    classOf (construction.shift places lines) = classOf construction :=
  Node.childText_shift places lines construction .constructor

theorem constructedIn_shift (arguments : Node) :
    constructedIn (arguments.shift places lines) = constructedIn arguments := by
  simp [constructedIn, List.filter_map, classOf_shift, Function.comp_def]

theorem ofNode_shift (n : Node) : ofNode (n.shift places lines) = (ofNode n).moved places := by
  unfold ofNode
  rw [Node.children_shift]
  cases n.children with
  | nil => simp [moved]
  | cons applied rest =>
      simp only [List.map_cons, Node.kind_shift, Node.child?_shift, Node.start_shift]
      split
      · cases applied.child? .arguments with
        | none => simp [nameOf_shift, moved]
        | some arguments =>
            simp [nameOf_shift, constructedIn_shift, moved, List.flatMap_map, valuesOf_shift]
      · have hname := nameOf_shift places lines (some applied)
        simp [moved, ← hname]

theorem nearest?_moved (names : List String) (window : List Decorator) :
    nearest? names (window.map (moved places)) = (nearest? names window).map (moved places) := by
  have hlater : ∀ best d : Decorator,
      later (best.moved places) (d.moved places) = (later best d).moved places := by
    intro best d
    unfold later
    simp only [moved, Nat.add_lt_add_iff_right]
    split <;> rfl
  -- decorators that are moved alike keep their order
  have hfold : ∀ (rest : List Decorator) (best : Decorator),
      (rest.map (moved places)).foldl later (best.moved places) =
        (rest.foldl later best).moved places := by
    intro rest
    induction rest with
    | nil => exact fun best => rfl
    | cons d rest ih =>
        intro best
        rw [List.map_cons, List.foldl_cons, List.foldl_cons, hlater, ih]
  have hfilter : (window.map (moved places)).filter (fun d => names.contains d.name) =
      (window.filter fun d => names.contains d.name).map (moved places) := List.filter_map
  unfold nearest?
  rw [hfilter]
  cases window.filter fun d => names.contains d.name with
  | nil => rfl
  | cons d rest => exact congrArg some (hfold rest d)

end Decorator

theorem map_ofNode_shift (ns : List Node) :
    (ns.map (Node.shift places lines)).map Decorator.ofNode =
      (ns.map Decorator.ofNode).map (Decorator.moved places) := by
  simp [Decorator.ofNode_shift, Function.comp_def]

theorem ownMarks_shift (n : Node) :
    ownMarks (n.shift places lines) = (ownMarks n).map (Decorator.moved places) := by
  unfold ownMarks
  rw [Node.kind_shift]
  split
  · simp [Decorator.ofNode_shift]
  · unfold decoratorsOf
    rw [Node.children_shift, List.filter_map, map_ofNode_shift]
    simp [Function.comp_def]
  · rfl

theorem serviceCall?_shift (call : Node) :
    serviceCall? (call.shift places lines) = serviceCall? call := by
  unfold serviceCall?
  cases hfunction : call.child? .function with
  | none => simp [hfunction]
  | some function =>
      cases howner : function.child? .object with
      | none => simp [hfunction, howner]
      | some owner => cases hholder : owner.child? .object <;> simp [hfunction, howner, hholder]

theorem callsIn_shift (caller : String) (body : Node) :
    callsIn caller (body.shift places lines) = callsIn caller body := by
  unfold callsIn
  rw [Node.ofKind_shift, List.filterMap_map]
  simp [serviceCall?_shift]

/-- A method further back. -/
def MethodFound.shift (m : MethodFound) : MethodFound :=
  ⟨m.node.shift places lines, m.name, m.place + places, m.line + lines⟩

theorem MethodFound.ofNode?_shift (n : Node) :
    ofNode? (n.shift places lines) = (ofNode? n).map (shift places lines) := by
  unfold ofNode?
  rw [Node.child?_shift, Option.map_map, Option.map_map]
  congr 1
  funext name
  simp [shift, Nat.add_right_comm]

/-- A method that is moved is the same endpoint on another line. -/
theorem ofMethod_shift (m : MethodFound) (window : List Decorator) :
    Endpoint.ofMethod (m.shift places lines) (window.map (Decorator.moved places)) =
      { Endpoint.ofMethod m window with line := m.line + lines } := by
  unfold Endpoint.ofMethod MethodFound.shift
  cases hbody : m.node.child? .body <;>
    simp [hbody, Decorator.nearest?_moved, Decorator.moved, Option.bind_map, Function.comp_def,
      callsIn_shift]

end Moved

/-! ## What an endpoint depends on -/

/-- Two bodies agree on a method and on the decorators between the method before it, or the start
of the body, and its name, except for where they stand. -/
inductive SameWindow (a b : Node) : List Node → Node → List Node → Node → Prop
  | first {between between' : List Node} {n n' : Node} {places lines places' lines' : Nat}
      (hbetween : ∀ x ∈ between, x.kind ≠ .method) (hbetween' : ∀ x ∈ between', x.kind ≠ .method)
      (hstart : a.start + places = b.start + places')
      (hsame : ((between.filter fun x => x.kind == .decorator) ++ [n]).map
          (Node.shift places lines) =
        ((between'.filter fun x => x.kind == .decorator) ++ [n']).map
          (Node.shift places' lines')) :
      SameWindow a b between n between' n'
  | later {earlier earlier' : List Node} {prev prev' : Node} {between between' : List Node}
      {n n' : Node} {places lines places' lines' : Nat}
      (hprev : prev.kind = .method) (hprev' : prev'.kind = .method)
      (hbetween : ∀ x ∈ between, x.kind ≠ .method) (hbetween' : ∀ x ∈ between', x.kind ≠ .method)
      (hsame : ((between.filter fun x => x.kind == .decorator) ++ [n]).map
          (Node.shift places lines) =
        ((between'.filter fun x => x.kind == .decorator) ++ [n']).map
          (Node.shift places' lines')) :
      SameWindow a b (earlier ++ prev :: between) n (earlier' ++ prev' :: between') n'

/-- The decorators before a method and in it, moved as one. -/
theorem marks_shift {between between' : List Node} {n n' : Node} {places lines places' lines' : Nat}
    (hsame : ((between.filter fun x => x.kind == .decorator) ++ [n]).map
        (Node.shift places lines) =
      ((between'.filter fun x => x.kind == .decorator) ++ [n']).map (Node.shift places' lines')) :
    n.shift places lines = n'.shift places' lines' ∧
    ((between.filter fun x => x.kind == .decorator).map Decorator.ofNode ++ ownMarks n).map
        (Decorator.moved places) =
      ((between'.filter fun x => x.kind == .decorator).map Decorator.ofNode ++ ownMarks n').map
        (Decorator.moved places') := by
  rw [List.map_append, List.map_append, List.map_singleton, List.map_singleton] at hsame
  obtain ⟨hmarks, hmethod⟩ := List.append_inj' hsame rfl
  have hn := List.singleton_inj.1 hmethod
  refine ⟨hn, ?_⟩
  rw [List.map_append, List.map_append, ← map_ofNode_shift places lines, hmarks,
    map_ofNode_shift, ← ownMarks_shift places lines, hn, ownMarks_shift]

theorem SameWindow.isEndpoint_eq {a b : Node} {before before' : List Node} {n n' : Node}
    (h : SameWindow a b before n before' n') : isEndpoint n' = isEndpoint n := by
  obtain ⟨places, lines, places', lines', hn⟩ :
      ∃ places lines places' lines', n.shift places lines = n'.shift places' lines' := by
    cases h with
    | first _ _ _ hsame => exact ⟨_, _, _, _, (marks_shift hsame).1⟩
    | later _ _ _ _ hsame => exact ⟨_, _, _, _, (marks_shift hsame).1⟩
  have hmoved : ∀ (n : Node) (k l : Nat), isEndpoint (n.shift k l) = isEndpoint n := by
    intro n k l
    simp [isEndpoint]
  rw [← hmoved n' places' lines', ← hn, hmoved]

/-- Agreeing bodies have one window for the method, moved. -/
theorem SameWindow.moved {a b : Node} {before before' : List Node} {n n' : Node}
    (h : SameWindow a b before n before' n') (ha : InOrder a.children) (hb : InOrder b.children)
    {after after' : List Node} (hsplit : a.children = before ++ n :: after)
    (hsplit' : b.children = before' ++ n' :: after') (hkind : n.kind = .method)
    {m m' : MethodFound} (hm : MethodFound.ofNode? n = some m)
    (hm' : MethodFound.ofNode? n' = some m') :
    ∃ places lines places' lines', n.shift places lines = n'.shift places' lines' ∧
      (windowOf a before m).map (Decorator.moved places) =
        (windowOf b before' m').map (Decorator.moved places') := by
  cases h with
  | first hbetween hbetween' hstart hsame =>
      rename_i places lines places' lines'
      obtain ⟨hn, hmarks⟩ := marks_shift hsame
      have hkind' : n'.kind = .method := by
        rw [← Node.kind_shift places' lines', ← hn, Node.kind_shift, hkind]
      refine ⟨places, lines, places', lines', hn, ?_⟩
      rw [windowOf_first ha hbetween hkind hm hsplit,
        windowOf_first hb hbetween' hkind' hm' hsplit']
      -- moving a decorator and the start of the body keeps their order
      have hfilter : ∀ (body : Node) (k : Nat) (ds : List Decorator),
          (ds.filter fun d => body.start ≤ d.place).map (Decorator.moved k) =
            (ds.map (Decorator.moved k)).filter fun d => body.start + k ≤ d.place := by
        intro body k ds
        rw [List.filter_map]
        congr 1
        refine List.filter_congr fun d _ => ?_
        simp [Decorator.moved]
      rw [hfilter, hfilter, hmarks, hstart]
  | later hprev hprev' hbetween hbetween' hsame =>
      rename_i places lines places' lines'
      obtain ⟨hn, hmarks⟩ := marks_shift hsame
      have hkind' : n'.kind = .method := by
        rw [← Node.kind_shift places' lines', ← hn, Node.kind_shift, hkind]
      refine ⟨places, lines, places', lines', hn, ?_⟩
      rw [windowOf_later ha hbetween hkind hm hprev hsplit,
        windowOf_later hb hbetween' hkind' hm' hprev' hsplit', hmarks]

/-- The endpoints of two agreeing bodies differ in their lines at most. -/
theorem SameWindow.ofMethod_eq {a b : Node} {before before' : List Node} {n n' : Node}
    (h : SameWindow a b before n before' n') (ha : InOrder a.children) (hb : InOrder b.children)
    {after after' : List Node} (hsplit : a.children = before ++ n :: after)
    (hsplit' : b.children = before' ++ n' :: after') (hkind : n.kind = .method)
    {m m' : MethodFound} (hm : MethodFound.ofNode? n = some m)
    (hm' : MethodFound.ofNode? n' = some m') :
    { Endpoint.ofMethod m (windowOf a before m) with line := m'.line } =
      Endpoint.ofMethod m' (windowOf b before' m') := by
  obtain ⟨places, lines, places', lines', hn, hwindow⟩ :=
    h.moved ha hb hsplit hsplit' hkind hm hm'
  have hmoved : m.shift places lines = m'.shift places' lines' := by
    have hfound := congrArg MethodFound.ofNode? hn
    rw [MethodFound.ofNode?_shift, MethodFound.ofNode?_shift, hm, hm'] at hfound
    exact Option.some.inj hfound
  have hleft := ofMethod_shift places lines m (windowOf a before m)
  have hright := ofMethod_shift places' lines' m' (windowOf b before' m')
  rw [hmoved, hwindow, hright] at hleft
  -- both are the endpoint of the moved method, but for the line
  calc { Endpoint.ofMethod m (windowOf a before m) with line := m'.line }
      = { { Endpoint.ofMethod m (windowOf a before m) with line := m.line + lines } with
          line := m'.line } := rfl
    _ = { { Endpoint.ofMethod m' (windowOf b before' m') with line := m'.line + lines' } with
          line := m'.line } := by rw [hleft]
    _ = Endpoint.ofMethod m' (windowOf b before' m') := rfl

/-! ## The facts of a class -/

/-- The facts hold one entry for each endpoint of a body, made of what counts for its method. -/
structure ControllerFacts.ReadFrom (f : ControllerFacts) (body : Node) : Prop where
  methods : f.methods = (body.children.filter isEndpoint).map (·.childText .name)
  parallel : f.actions.map Prod.fst = f.methods ∧ f.roles.map Prod.fst = f.methods ∧
    f.policies.map Prod.fst = f.methods
  entries : ∀ before n after, body.children = before ++ n :: after → isEndpoint n = true →
    ∃ action role policy, Last actionMarks (Counts body before n) action ∧
      Last roleMarks (Counts body before n) role ∧
      Last policyMarks (Counts body before n) policy ∧
      let i := (before.filter isEndpoint).length
      let name := n.childText .name
      f.methods[i]? = some name ∧
      f.actions[i]? = some (name, (action.map fun d => Text.upper d.name).getD "") ∧
      f.roles[i]? = some (name, (role.map (·.arguments)).getD []) ∧
      f.policies[i]? = some (name, (policy.bind (·.constructed.head?)).getD "")

theorem kind_of_isEndpoint {n : Node} (h : isEndpoint n = true) : n.kind = .method := by
  have hparts : n.kind = .method ∧ n.childText .name ≠ constructorName := by
    simpa [isEndpoint] using h
  exact hparts.1

theorem readFrom_ofClass (imports : List ImportedName) {c : ClassFound}
    (h : InOrder c.body.children) : (ControllerFacts.ofClass imports c).ReadFrom c.body := by
  -- the lists are parallel since each holds the names of the endpoints
  refine ⟨map_name_endpointsOf h, ⟨?_, ?_, ?_⟩, ?_⟩
  · exact List.map_map
  · exact List.map_map
  · exact List.map_map
  intro before n after hsplit hn
  have hkind := kind_of_isEndpoint hn
  obtain ⟨m, hm⟩ := h.exists_found (hsplit ▸ List.mem_append_right _ List.mem_cons_self) hkind
  have hcounts : (· ∈ windowOf c.body before m) = Counts c.body before n :=
    funext fun d => propext (mem_windowOf_iff h hsplit hm d)
  have hplaces : (windowOf c.body before m).Pairwise fun a b => a.place < b.place :=
    (memberDecorators_pairwise h).filter _
  have hlast : ∀ names, Last names (Counts c.body before n)
      (Decorator.nearest? names (windowOf c.body before m)) := by
    intro names
    rw [← hcounts]
    exact last_nearest? names hplaces
  have hentry : (ControllerFacts.ofClass imports c).endpoints[(before.filter isEndpoint).length]? =
      some (Endpoint.ofMethod m (windowOf c.body before m)) :=
    getElem?_endpointsOf h hsplit hn hm
  refine ⟨_, _, _, hlast actionMarks, hlast roleMarks, hlast policyMarks, ?_⟩
  simp only [ControllerFacts.methods, ControllerFacts.actions, ControllerFacts.roles,
    ControllerFacts.policies, List.getElem?_map, hentry, Option.map_some, ← name_ofNode? hm]
  exact ⟨rfl, rfl, rfl, rfl⟩

/--
The facts of a class hold one entry for each method of its body but the constructor, in order, with
verb, roles and policy from the last decorator of each purpose that counts for the method. What
counts for one method stands before what counts for a later one, the constructor included, so that
no decorator counts twice; and only decorators whose parent is the body or a method of the body
count. If two bodies agree on a method and on the decorators in its window, then its entries agree,
whatever else the bodies hold. The bodies of the classes of a source are in order.
-/
theorem facts_nearest :
    (∀ source, ∀ c ∈ classes (Node.ofSource source), InOrder c.body.children) ∧
    ∀ (imports : List ImportedName) (c : ClassFound), InOrder c.body.children →
      (ControllerFacts.ofClass imports c).ReadFrom c.body ∧
      (∀ before n after before' n' after', c.body.children = before ++ n :: after →
        c.body.children = before' ++ n' :: after' → n.kind = .method → n'.kind = .method →
        before.length < before'.length →
        ∀ d d', Counts c.body before n d → Counts c.body before' n' d' → d.place < d'.place) ∧
      (memberDecorators c.body =
          ((scan [] c.body).filter isMemberMark).map (fun entry => Decorator.ofNode entry.2) ∧
        (scan [] c.body).map Prod.snd = c.body.preorder) ∧
      ∀ (imports' : List ImportedName) (c' : ClassFound), InOrder c'.body.children →
        ∀ before n after before' n' after', c.body.children = before ++ n :: after →
          c'.body.children = before' ++ n' :: after' → isEndpoint n = true →
          SameWindow c.body c'.body before n before' n' →
          ∃ e e', (ControllerFacts.ofClass imports c).endpoints[
              (before.filter isEndpoint).length]? = some e ∧
            (ControllerFacts.ofClass imports' c').endpoints[
              (before'.filter isEndpoint).length]? = some e' ∧
            { e with line := e'.line } = e' := by
  refine ⟨fun source c hc => inOrder_of_mem_classes hc, fun imports c h => ⟨?_, ?_, ?_, ?_⟩⟩
  · exact readFrom_ofClass imports h
  · intro before n after before' n' after' hsplit hsplit' hkind hkind' hlater d d' hd hd'
    obtain ⟨m, hm⟩ := h.exists_found (hsplit ▸ List.mem_append_right _ List.mem_cons_self) hkind
    exact Counts.place_lt h hsplit hkind hm hsplit' hlater hd hd'
  · exact ⟨memberDecorators_eq_scan c.body, map_snd_scan [] c.body⟩
  · intro imports' c' h' before n after before' n' after' hsplit hsplit' hn hsame
    -- both methods are found, each with its window
    have hn' : isEndpoint n' = true := hsame.isEndpoint_eq.trans hn
    have hkind := kind_of_isEndpoint hn
    have hkind' := kind_of_isEndpoint hn'
    obtain ⟨m, hm⟩ := h.exists_found (hsplit ▸ List.mem_append_right _ List.mem_cons_self) hkind
    obtain ⟨m', hm'⟩ :=
      h'.exists_found (hsplit' ▸ List.mem_append_right _ List.mem_cons_self) hkind'
    exact ⟨_, _, getElem?_endpointsOf h hsplit hn hm, getElem?_endpointsOf h' hsplit' hn' hm',
      hsame.ofMethod_eq h h' hsplit hsplit' hkind hm hm'⟩

/-- A decorator without arguments. -/
def plainMark (name : String) (start : Nat) : Node :=
  .mk .decorator .none start 0 ("@" ++ name) [.mk .other .none (start + 1) 0 name []]

/-- A method with nothing but a name. -/
def plainMethod (name : String) (start : Nat) : Node :=
  .mk .method .none start 0 name [.mk .other .name start 0 name []]

/-- A class with some members. -/
def plainClass (members : List Node) : ClassFound :=
  ⟨.mk .classDeclaration .none 0 0 "" [], .mk .classBody .body 0 0 "" members, []⟩

theorem facts_nearest_plainClass :
    let first := plainClass [plainMark "Get" 1, plainMethod "a" 9, plainMark "Delete" 12,
      plainMark "Put" 20, plainMethod "b" 29, plainMethod "c" 31]
    let second := plainClass [plainMark "Post" 1, plainMethod "constructor" 9,
      plainMark "Delete" 42, plainMark "Put" 50, plainMethod "b" 59]
    (ControllerFacts.ofClass [] first).actions = [("a", "GET"), ("b", "PUT"), ("c", "")] ∧
    (ControllerFacts.ofClass [] first).ReadFrom first.body ∧
    ∃ e e', (ControllerFacts.ofClass [] first).endpoints[1]? = some e ∧
      (ControllerFacts.ofClass [] second).endpoints[0]? = some e' ∧
      { e with line := e'.line } = e' := by
  intro first second
  have hfirst : InOrder first.body.children := ⟨by decide, by decide⟩
  have hsecond : InOrder second.body.children := ⟨by decide, by decide⟩
  -- thirty characters were written after the first method
  have hmoved : ([plainMark "Delete" 12, plainMark "Put" 20] ++ [plainMethod "b" 29]).map
      (Node.shift 30 0) =
        ([plainMark "Delete" 42, plainMark "Put" 50] ++ [plainMethod "b" 59]).map
          (Node.shift 0 0) := rfl
  have hsame : SameWindow first.body second.body
      ([plainMark "Get" 1] ++ plainMethod "a" 9 :: [plainMark "Delete" 12, plainMark "Put" 20])
      (plainMethod "b" 29)
      ([plainMark "Post" 1] ++ plainMethod "constructor" 9 ::
        [plainMark "Delete" 42, plainMark "Put" 50])
      (plainMethod "b" 59) :=
    .later rfl rfl (by decide) (by decide) hmoved
  obtain ⟨hread, -, -, hlocal⟩ := facts_nearest.2 [] first hfirst
  exact ⟨by decide +kernel, hread,
    hlocal [] second hsecond _ _ [plainMethod "c" 31] _ _ [] rfl rfl (by decide) hsame⟩

end RoleAudit
