import RoleAudit.Proofs.Resolution.Cache

/-!
# Readings

A resolver reads each file at most once. Between two lookups the disk may change, and what was read
before stands for the file from then on:

- `resolveEach`: lookups of one resolver, each with the disk as it is then;
- `OpensAt`, `FirstOpens`: a call that opens a path, and that opens it before any other call does;
- `lookup_keptBefore`: a path is kept exactly if a call has opened it, as it was then;
- `resolveEach_reads_once`: in any calls each text is the one that the disk held when its path was
  opened first, and on a disk that does not change each call is like the first one.
-/

namespace RoleAudit

variable {α β : Type}

/-! ## Calls one after the other -/

/-- Lookups of one resolver, each with the disk as it is then. -/
def resolveEach (r : Resolver) (calls : List (Disk × Lookup)) :
    StateM TextCache (List (ServiceResolution ⊕ PolicyResolution)) :=
  calls.mapM fun (d, l) => l.run d r

section Steps

variable {σ : Type} (f : α → StateM σ β)

theorem run_mapM_cons (a : α) (rest : List α) (s : σ) :
    ((a :: rest).mapM f).run s =
      (((f a).run s).1 :: ((rest.mapM f).run ((f a).run s).2).1,
        ((rest.mapM f).run ((f a).run s).2).2) := by
  rw [List.mapM_cons]
  rfl

/-- What is done for the items gives one result for each. -/
theorem length_run_mapM (items : List α) (s : σ) :
    ((items.mapM f).run s).1.length = items.length := by
  induction items generalizing s with
  | nil => rfl
  | cons a rest ih => rw [run_mapM_cons, List.length_cons, List.length_cons, ih]

/-- An item finds the state that the items before leave, and its result stands at its place. -/
theorem getElem?_run_mapM {items : List α} {k : Nat} {a : α} (h : items[k]? = some a) (s : σ) :
    ((items.mapM f).run s).1[k]? =
        some ((f a).run (((items.take k).mapM f).run s).2).1 ∧
      (((items.take (k + 1)).mapM f).run s).2 =
        ((f a).run (((items.take k).mapM f).run s).2).2 := by
  induction items generalizing s k with
  | nil => cases h
  | cons b rest ih =>
      cases k with
      | zero =>
          cases h
          exact ⟨by rw [run_mapM_cons, List.getElem?_cons_zero]; rfl, rfl⟩
      | succ k =>
          have hlater := ih h ((f b).run s).2
          rw [List.take_succ_cons, List.take_succ_cons, run_mapM_cons, run_mapM_cons, run_mapM_cons,
            List.getElem?_cons_succ]
          exact hlater

end Steps

section Calls

variable (r : Resolver) (calls : List (Disk × Lookup))

/-- A call opens a path, if these are the texts that the calls meet. -/
def OpensAt (texts : Nat → Texts) (k : Nat) (d : Disk) (path : String) : Prop :=
  ∃ l, calls[k]? = some (d, l) ∧ path ∈ l.opened d r (texts k)

/-- A call opens a path that no call before has opened. -/
def FirstOpens (texts : Nat → Texts) (k : Nat) (d : Disk) (path : String) : Prop :=
  OpensAt r calls texts k d path ∧ ∀ j < k, ∀ d', ¬ OpensAt r calls texts j d' path

/-- What is kept before a call. -/
def keptBefore (k : Nat) : TextCache :=
  ((resolveEach r (calls.take k)).run []).2

/-- The texts that a call meets. -/
def metAt (k : Nat) : Texts :=
  match calls[k]? with
  | some (d, _) => held d r.project (keptBefore r calls k)
  | none => fun _ => none

variable {r calls}

theorem metAt_of_call {k : Nat} {d : Disk} {l : Lookup} (h : calls[k]? = some (d, l)) :
    metAt r calls k = held d r.project (keptBefore r calls k) := by
  unfold metAt
  rw [h]

/-- A call gives what it makes of the texts that it meets. -/
theorem result_eq_answer {k : Nat} {d : Disk} {l : Lookup} (h : calls[k]? = some (d, l)) :
    ((resolveEach r calls).run []).1[k]? = some (l.answer d r (metAt r calls k)) := by
  rw [metAt_of_call h, ← (consults_run d r l).value]
  exact (getElem?_run_mapM _ h []).1

/-- After a call what it has opened is kept as well. -/
theorem lookup_keptBefore_succ {k : Nat} {d : Disk} {l : Lookup} (h : calls[k]? = some (d, l))
    (path : String) :
    (keptBefore r calls (k + 1)).lookup path =
      if path ∈ l.opened d r (metAt r calls k) then some (metAt r calls k path)
      else (keptBefore r calls k).lookup path := by
  have hstep : keptBefore r calls (k + 1) = ((l.run d r).run (keptBefore r calls k)).2 :=
    (getElem?_run_mapM _ h []).2
  rw [hstep, metAt_of_call h]
  exact (consults_run d r l).kept _ path

/-- A path is kept exactly if a call has opened it, and then as it was at the first such call. -/
theorem lookup_keptBefore (k : Nat) (path : String) (hk : k ≤ calls.length) :
    (∃ j < k, ∃ d, FirstOpens r calls (metAt r calls) j d path ∧
        (keptBefore r calls k).lookup path = some (readText? d r.project path)) ∨
      (∀ j < k, ∀ d, ¬ OpensAt r calls (metAt r calls) j d path) ∧
        (keptBefore r calls k).lookup path = none := by
  induction k with
  | zero => exact Or.inr ⟨fun j hj => absurd hj (Nat.not_lt_zero j), rfl⟩
  | succ k ih =>
      have hcall : calls[k]? = some calls[k] := List.getElem?_eq_getElem hk
      generalize calls[k] = call at hcall
      rcases call with ⟨d, l⟩
      have hopens : ∀ d', OpensAt r calls (metAt r calls) k d' path →
          path ∈ l.opened d r (metAt r calls k) := by
        rintro d' ⟨l', hcall', hpath⟩
        rw [hcall] at hcall'
        cases hcall'
        exact hpath
      rcases ih (Nat.le_of_succ_le hk) with ⟨j, hj, first, hfirst, hkept⟩ | ⟨hnone, hkept⟩
      · -- what is kept is met, so opening the path again keeps the same
        refine Or.inl ⟨j, Nat.lt_succ_of_lt hj, first, hfirst, ?_⟩
        rw [lookup_keptBefore_succ hcall, metAt_of_call hcall, held, hkept, Option.getD_some]
        exact ite_self _
      · have hmet : metAt r calls k path = readText? d r.project path := by
          rw [metAt_of_call hcall, held, hkept, Option.getD_none]
        by_cases hpath : path ∈ l.opened d r (metAt r calls k)
        · refine Or.inl ⟨k, Nat.lt_succ_self k, d, ⟨⟨l, hcall, hpath⟩, hnone⟩, ?_⟩
          rw [lookup_keptBefore_succ hcall, if_pos hpath, hmet]
        · refine Or.inr ⟨fun j hj d' hopen => ?_, ?_⟩
          · rcases Nat.lt_succ_iff_lt_or_eq.1 hj with hearlier | rfl
            · exact hnone j hearlier d' hopen
            · exact hpath (hopens d' hopen)
          · rw [lookup_keptBefore_succ hcall, if_neg hpath, hkept]

/-- A call meets at a path that it opens what the disk held at the first opening. -/
theorem metAt_of_opensAt {k : Nat} {d : Disk} {path : String}
    (h : OpensAt r calls (metAt r calls) k d path) :
    ∃ j ≤ k, ∃ first, FirstOpens r calls (metAt r calls) j first path ∧
      metAt r calls k path = readText? first r.project path := by
  rcases h with ⟨l, hcall, hpath⟩
  have hk : k ≤ calls.length := Nat.le_of_lt (List.getElem?_eq_some_iff.1 hcall).1
  have hmet : metAt r calls k path = held d r.project (keptBefore r calls k) path := by
    rw [metAt_of_call hcall]
  rcases lookup_keptBefore k path hk with ⟨j, hj, first, hfirst, hkept⟩ | ⟨hnone, hkept⟩
  · refine ⟨j, Nat.le_of_lt hj, first, hfirst, ?_⟩
    rw [hmet, held, hkept, Option.getD_some]
  · refine ⟨k, Nat.le_refl k, d, ⟨⟨l, hcall, hpath⟩, hnone⟩, ?_⟩
    rw [hmet, held, hkept, Option.getD_none]

/-- As long as the disk does not change, a call gives what a fresh resolver gives. -/
theorem result_eq_fresh {k : Nat} {d : Disk} {l : Lookup} (h : calls[k]? = some (d, l))
    (hsame : ∀ j < k, ∀ call, calls[j]? = some call → call.1 = d) :
    ((resolveEach r calls).run []).1[k]? = some ((l.run d r).run []).1 := by
  have hfresh : ((l.run d r).run []).1 = l.answer d r (readText? d r.project) :=
    (consults_run d r l).value_of_cacheSound (cacheSound_nil d r)
  rw [result_eq_answer h, hfresh]
  -- at the paths that are opened, the disk of the first opening is this one
  have hreads := (consults_run d r l).reads (metAt r calls k) (readText? d r.project)
  rw [(hreads fun path hpath => ?_).1]
  rcases metAt_of_opensAt ⟨l, h, hpath⟩ with ⟨j, hj, first, ⟨⟨l', hcall, -⟩, -⟩, hmet⟩
  have hfirst : first = d := by
    rcases Nat.lt_or_eq_of_le hj with hearlier | rfl
    · exact hsame j hearlier _ hcall
    · rw [h] at hcall
      cases hcall
      rfl
  rw [hmet, hfirst]

/--
For any lookups of one resolver and whatever happens to the disk between them: each call gives what
it makes of some texts, and of these only what it opens makes a difference. At each path that it
opens this is the text, or the absence of one, that the disk held when a call opened the path for
the first time. As long as the disk does not change, each call gives what a resolver gives that has
read nothing.
-/
theorem resolveEach_reads_once (r : Resolver) (calls : List (Disk × Lookup)) :
    let results := ((resolveEach r calls).run []).1
    results.length = calls.length ∧
    (∃ texts : Nat → Texts,
      (∀ (k : Nat) (d : Disk) (l : Lookup), calls[k]? = some (d, l) →
        results[k]? = some (l.answer d r (texts k)) ∧
        ∀ others, (∀ path ∈ l.opened d r (texts k), others path = texts k path) →
          l.answer d r others = l.answer d r (texts k)) ∧
      ∀ k d path, OpensAt r calls texts k d path →
        ∃ j ≤ k, ∃ first, FirstOpens r calls texts j first path ∧
          texts k path = readText? first r.project path) ∧
    ∀ (k : Nat) (d : Disk) (l : Lookup), calls[k]? = some (d, l) →
      (∀ j < k, ∀ call, calls[j]? = some call → call.1 = d) →
      results[k]? = some ((l.run d r).run []).1 := by
  intro results
  refine ⟨length_run_mapM _ calls [], ⟨metAt r calls, ?_, ?_⟩, ?_⟩
  · intro k d l hcall
    refine ⟨result_eq_answer hcall, fun others hothers => ?_⟩
    exact ((consults_run d r l).reads _ others hothers).1
  · intro k d path hopen
    exact metAt_of_opensAt hopen
  · intro k d l hcall hsame
    exact result_eq_fresh hcall hsame

end Calls

/-- A controller that imports its service from the file beside it. -/
def besideLookup : Lookup :=
  ⟨.service, ⟨"A", "", [], [], [⟨"XService", "./s"⟩]⟩, some "/x/src/c.ts"⟩

/-- A project with one file. -/
def oneFileDisk (text : String) : Disk :=
  ⟨[(["x"], .directory), (["x", "src"], .directory),
    (["x", "src", "s.ts"], .file (Text.encodeUtf8 text))], []⟩

/-- The file is written anew between two lookups. -/
def rewrittenCalls : List (Disk × Lookup) :=
  [(oneFileDisk "class XService", besideLookup), (oneFileDisk "class Other", besideLookup)]

theorem resolveEach_reads_once_rewrittenCalls :
    let results := ((resolveEach (Resolver.usual "/x") rewrittenCalls).run []).1
    results.length = 2 ∧
      results[0]? = some ((besideLookup.run (oneFileDisk "class XService")
        (Resolver.usual "/x")).run []).1 ∧
      ∃ texts : Texts, texts "/x/src/s.ts" = some "class XService" ∧
        results[1]? = some (besideLookup.answer (oneFileDisk "class Other")
          (Resolver.usual "/x") texts) := by
  intro results
  rcases resolveEach_reads_once (Resolver.usual "/x") rewrittenCalls with
    ⟨hlength, ⟨texts, hanswers, hmet⟩, hfresh⟩
  -- both calls open the imported file, whatever they meet
  have hfirst : OpensAt (Resolver.usual "/x") rewrittenCalls texts 0 (oneFileDisk "class XService")
      "/x/src/s.ts" := by
    refine ⟨besideLookup, rfl, List.mem_flatMap.2 ⟨(["XService"], "./s"), by decide +kernel, ?_⟩⟩
    exact Strategies.mem_openedIn_of_head (by decide +kernel) (List.cons_ne_nil _ _)
  have hsecond : OpensAt (Resolver.usual "/x") rewrittenCalls texts 1 (oneFileDisk "class Other")
      "/x/src/s.ts" := by
    refine ⟨besideLookup, rfl, List.mem_flatMap.2 ⟨(["XService"], "./s"), by decide +kernel, ?_⟩⟩
    exact Strategies.mem_openedIn_of_head (by decide +kernel) (List.cons_ne_nil _ _)
  have hbefore : readText? (oneFileDisk "class XService") "/x" "/x/src/s.ts" =
      some "class XService" := by decide +kernel
  refine ⟨hlength, ?_, texts 1, ?_, (hanswers 1 _ _ rfl).1⟩
  · exact hfresh 0 _ _ rfl fun j hj => absurd hj (Nat.not_lt_zero j)
  · rcases hmet 1 _ _ hsecond with ⟨j, hj, first, ⟨⟨l, hcall, -⟩, hnone⟩, htext⟩
    have hzero : j = 0 := by
      rcases Nat.eq_zero_or_pos j with hzero | hlater
      · exact hzero
      · exact absurd hfirst (hnone 0 hlater _)
    subst hzero
    cases hcall
    rw [htext]
    exact hbefore

end RoleAudit
