import RoleAudit.Proofs.Resolution.Reach
import RoleAudit.Proofs.Text.Distinct

/-!
# Precedence of strategies

Files are proposed by several locators and tried with several matchers. Which file is found for any
strategies, whatever they propose and accept:

- `ClassMatcher.defines_anyCase`: what is defined under an exact name is defined under it in any case;
- `fit?`, `Strategies.value_locate`: a search with a sound cache gives the first fit among the
  candidates for the first matcher that has one;
- `findSome?_eq_some_iff_first`: a first result stands at the least place that has one;
- `Strategies.Hit`: a matcher that accepts the text of a candidate;
- `Strategies.locate_lexicographic`: the hit of the least matcher, and of the least candidate for it,
  is found.
-/

namespace RoleAudit

/-! ## Names in any case -/

theorem Text.alike_refl (c : Char) : Text.alike c c = true := by
  simp [Text.alike]

namespace ClassMatcher

/-- What stands somewhere exactly stands there in any case. -/
theorem after?_anyCase {word : List Char} {last : Option Char} {cs : List Char}
    {rest : Option Char × List Char} (h : exact.after? word last cs = some rest) :
    anyCase.after? word last cs = some rest := by
  induction word generalizing last cs with
  | nil => exact h
  | cons w ws ih =>
      cases cs with
      | nil => exact h
      | cons c cs =>
          unfold after? at h ⊢
          cases hsame : exact.same w c with
          | false => simp [hsame] at h
          | true =>
              -- characters that are the same are alike
              have hequal : w = c := by simpa [same] using hsame
              have halike : anyCase.same w c = true := hequal ▸ Text.alike_refl w
              rw [if_pos hsame] at h
              rw [if_pos halike]
              exact ih h

theorem namesHere_anyCase {name : List Char} {last : Option Char} {cs : List Char}
    (h : exact.namesHere name last cs = true) : anyCase.namesHere name last cs = true := by
  unfold namesHere at h ⊢
  cases hafter : exact.after? name last cs with
  | none => simp [hafter] at h
  | some rest =>
      rw [hafter] at h
      rw [after?_anyCase hafter]
      exact h

theorem namesAfterBlanks_anyCase {name cs : List Char}
    (h : exact.namesAfterBlanks name cs = true) : anyCase.namesAfterBlanks name cs = true := by
  induction cs with
  | nil => exact h
  | cons c cs ih =>
      unfold namesAfterBlanks at h ⊢
      rw [Bool.and_eq_true, Bool.or_eq_true] at h ⊢
      exact ⟨h.1, h.2.imp namesHere_anyCase ih⟩

theorem definesHere_anyCase {name : List Char} {before : Option Char} {cs : List Char}
    (h : exact.definesHere name before cs = true) : anyCase.definesHere name before cs = true := by
  unfold definesHere at h ⊢
  rw [Bool.and_eq_true] at h ⊢
  obtain ⟨hboundary, hnames⟩ := h
  refine ⟨hboundary, ?_⟩
  cases hafter : exact.after? "class".toList before cs with
  | none =>
      rw [hafter] at hnames
      cases hnames
  | some rest =>
      rw [hafter] at hnames
      rw [after?_anyCase hafter]
      exact namesAfterBlanks_anyCase hnames

theorem definesFrom_anyCase {name : List Char} {before : Option Char} {cs : List Char}
    (h : exact.definesFrom name before cs = true) : anyCase.definesFrom name before cs = true := by
  induction cs generalizing before with
  | nil => exact definesHere_anyCase h
  | cons c cs ih =>
      unfold definesFrom at h ⊢
      rw [Bool.or_eq_true] at h ⊢
      exact h.imp definesHere_anyCase ih

/-- A text that defines a class under its exact name defines it in any case. -/
theorem defines_anyCase {content name : String} (h : exact.defines content name = true) :
    anyCase.defines content name = true :=
  definesFrom_anyCase h

/-- What one of the usual matchers accepts is defined in any case. -/
theorem defines_anyCase_of_mem {accepts : String → String → Bool} {content name : String}
    (hmatcher : accepts ∈ [exact, anyCase].map defines) (h : accepts content name = true) :
    anyCase.defines content name = true := by
  rcases List.mem_map.1 hmatcher with ⟨matcher, -, rfl⟩
  cases matcher with
  | exact => exact defines_anyCase h
  | anyCase => exact h

end ClassMatcher

/-! ## First fits -/

/-- The file at a path and its text, if the text is accepted for all classes. -/
def fit? (d : Disk) (names : List String) (project : String) (accepts : String → String → Bool)
    (path : String) : Option (String × String) :=
  (readText? d project path).bind fun text =>
    if names.all (accepts text) then some (path, text) else none

/-- A first result stands at the least place that has one. -/
theorem findSome?_eq_some_iff_first {α β : Type} {f : α → Option β} {items : List α} {b : β} :
    items.findSome? f = some b ↔
      ∃ i : Nat, (items[i]?.bind f) = some b ∧ ∀ i' < i, (items[i']?.bind f) = none := by
  rw [List.findSome?_eq_some_iff]
  constructor
  · rintro ⟨before, a, after, rfl, ha, hbefore⟩
    refine ⟨before.length, by simpa using ha, fun i' hi' => ?_⟩
    rw [List.getElem?_append_left hi', List.getElem?_eq_getElem hi', Option.bind_some]
    exact hbefore _ (List.getElem_mem hi')
  · rintro ⟨i, hi, hfirst⟩
    obtain ⟨a, hget, ha⟩ := Option.bind_eq_some_iff.1 hi
    obtain ⟨hlt, rfl⟩ := List.getElem?_eq_some_iff.1 hget
    refine ⟨items.take i, items[i], items.drop (i + 1), ?_, ha, fun a' ha' => ?_⟩
    · rw [List.getElem_cons_drop, List.take_append_drop]
    · obtain ⟨i', hi', rfl⟩ := List.mem_take_iff_getElem.1 ha'
      have hi' := hfirst i' (by omega)
      rwa [List.getElem?_eq_getElem, Option.bind_some] at hi'

section Nested

variable {α β γ : Type} (f : α → β → Option γ) (items : List α) (others : List β)

/-- The result for the items at two places. -/
def resultAt (i j : Nat) : Option γ :=
  items[i]?.bind fun a => others[j]?.bind (f a)

variable {f items others}

/-- A search for one item gives the first result in its row. -/
theorem bind_findSome?_eq_some_iff {i : Nat} {c : γ} :
    (items[i]?.bind fun a => others.findSome? (f a)) = some c ↔
      ∃ j : Nat, resultAt f items others i j = some c ∧
        ∀ j' < j, resultAt f items others i j' = none := by
  unfold resultAt
  cases items[i]? with
  | none => simp
  | some a => exact findSome?_eq_some_iff_first

theorem bind_findSome?_eq_none_iff {i : Nat} :
    (items[i]?.bind fun a => others.findSome? (f a)) = none ↔
      ∀ j : Nat, resultAt f items others i j = none := by
  unfold resultAt
  cases items[i]? with
  | none => simp
  | some a =>
      simp only [Option.bind_some]
      rw [List.findSome?_eq_none_iff]
      constructor
      · intro hnone j
        cases hj : others[j]? with
        | none => rfl
        | some b => exact hnone b (List.mem_of_getElem? hj)
      · intro hnone b hb
        obtain ⟨j, hj⟩ := List.mem_iff_getElem?.1 hb
        simpa [hj] using hnone j

/-- A search for each item in turn gives the result at the least places, item by item. -/
theorem findSome?_findSome?_eq_some_iff {c : γ} :
    (items.findSome? fun a => others.findSome? (f a)) = some c ↔
      ∃ i j, resultAt f items others i j = some c ∧
        ∀ i' j', (i' < i ∨ i' = i ∧ j' < j) → resultAt f items others i' j' = none := by
  rw [findSome?_eq_some_iff_first]
  constructor
  · rintro ⟨i, hrow, hearlier⟩
    obtain ⟨j, hresult, hfirst⟩ := bind_findSome?_eq_some_iff.1 hrow
    refine ⟨i, j, hresult, fun i' j' hbefore => ?_⟩
    rcases hbefore with hlt | ⟨rfl, hlt⟩
    · exact bind_findSome?_eq_none_iff.1 (hearlier i' hlt) j'
    · exact hfirst j' hlt
  · rintro ⟨i, j, hresult, hleast⟩
    refine ⟨i, ?_, fun i' hlt => ?_⟩
    · exact bind_findSome?_eq_some_iff.2 ⟨j, hresult, fun j' hlt => hleast i j' (.inr ⟨rfl, hlt⟩)⟩
    · exact bind_findSome?_eq_none_iff.2 fun j' => hleast i' j' (.inl hlt)

theorem findSome?_findSome?_eq_none_iff :
    (items.findSome? fun a => others.findSome? (f a)) = none ↔
      ∀ i j, resultAt f items others i j = none := by
  rw [List.findSome?_eq_none_iff]
  constructor
  · intro hnone i
    apply bind_findSome?_eq_none_iff.1
    cases hi : items[i]? with
    | none => rfl
    | some a => exact hnone a (List.mem_of_getElem? hi)
  · intro hnone a ha
    obtain ⟨i, hi⟩ := List.mem_iff_getElem?.1 ha
    have hrow := bind_findSome?_eq_none_iff.2 (hnone i)
    rwa [hi, Option.bind_some] at hrow

end Nested

namespace Strategies

section Search

variable (s : Strategies) (d : Disk) (project : String) (c : LookupContext)

/-- A matcher that accepts the text of a candidate for all wanted classes, both by their places. -/
structure Hit (i j : Nat) (path content : String) : Prop where
  candidate : (proposals s.locators c)[j]? = some path
  text : readText? d project path = some content
  accepted : ∃ accepts, s.matchers[i]? = some accepts ∧
    ∀ name ∈ c.classNames, accepts content name = true

variable {s d project c}

theorem fit?_eq_some_iff {names : List String} {accepts : String → String → Bool}
    {candidate path text : String} :
    fit? d names project accepts candidate = some (path, text) ↔
      candidate = path ∧ readText? d project path = some text ∧
        ∀ name ∈ names, accepts text name = true := by
  unfold fit?
  rw [Option.bind_eq_some_iff]
  constructor
  · rintro ⟨content, htext, hfound⟩
    split at hfound
    · rename_i hall
      cases hfound
      exact ⟨rfl, htext, List.all_eq_true.1 hall⟩
    · cases hfound
  · rintro ⟨rfl, htext, hall⟩
    exact ⟨text, htext, if_pos (List.all_eq_true.2 hall)⟩

/-- A hit is a fit of the matcher at its place and the candidate at its place. -/
theorem hit_iff {i j : Nat} {path text : String} :
    s.Hit d project c i j path text ↔
      resultAt (fit? d c.classNames project) s.matchers (proposals s.locators c) i j =
        some (path, text) := by
  unfold resultAt
  rw [Option.bind_eq_some_iff]
  constructor
  · rintro ⟨hpath, htext, accepts, hmatcher, hall⟩
    refine ⟨accepts, hmatcher, ?_⟩
    rw [hpath, Option.bind_some]
    exact fit?_eq_some_iff.2 ⟨rfl, htext, hall⟩
  · rintro ⟨accepts, hmatcher, hfit⟩
    obtain ⟨candidate, hcandidate, hfit⟩ := Option.bind_eq_some_iff.1 hfit
    obtain ⟨rfl, htext, hall⟩ := fit?_eq_some_iff.1 hfit
    exact ⟨hcandidate, htext, accepts, hmatcher, hall⟩

theorem no_hit_iff {i j : Nat} :
    resultAt (fit? d c.classNames project) s.matchers (proposals s.locators c) i j = none ↔
      ∀ path text, ¬ s.Hit d project c i j path text := by
  rw [Option.eq_none_iff_forall_ne_some]
  constructor
  · intro hnone path text hhit
    exact hnone (path, text) (hit_iff.1 hhit)
  · rintro hnone ⟨path, text⟩ hresult
    exact hnone path text (hit_iff.2 hresult)

/-- With a sound cache the search is the nested one. -/
theorem value_locate {cache : TextCache} (hcache : CacheSound d (Resolver.usual project) cache) :
    ((s.locate d project c).run cache).1 =
      ⟨s.matchers.findSome? fun accepts =>
        (proposals s.locators c).findSome? (fit? d c.classNames project accepts),
        proposals s.locators c⟩ :=
  (consults_locate d project s c).value_of_cacheSound hcache

/-- With the usual matchers a file is found if a candidate fits in any case. -/
theorem exists_hit_iff_anyCase
    (husual : s.matchers = [ClassMatcher.exact, .anyCase].map ClassMatcher.defines) :
    (∃ i j path text, s.Hit d project c i j path text) ↔
      ∃ path ∈ proposals s.locators c, ∃ text, readText? d project path = some text ∧
        ∀ name ∈ c.classNames, ClassMatcher.anyCase.defines text name = true := by
  constructor
  · rintro ⟨i, j, path, text, hhit⟩
    obtain ⟨accepts, hmatcher, hall⟩ := hhit.accepted
    refine ⟨path, List.mem_of_getElem? hhit.candidate, text, hhit.text, fun name hname => ?_⟩
    have hmem : accepts ∈ [ClassMatcher.exact, .anyCase].map ClassMatcher.defines :=
      husual ▸ List.mem_of_getElem? hmatcher
    exact ClassMatcher.defines_anyCase_of_mem hmem (hall name hname)
  · rintro ⟨path, hpath, text, htext, hall⟩
    obtain ⟨j, hj⟩ := List.mem_iff_getElem?.1 hpath
    exact ⟨1, j, path, text, hj, htext, ClassMatcher.anyCase.defines, by rw [husual]; rfl, hall⟩

end Search

/--
For any strategies, the candidates are the normal forms of all proposals at their first appearance,
and they are what a search reports as checked. It finds the hit whose matcher stands first, and among
the hits of that matcher the one whose candidate stands first; it finds nothing if there is no hit.
With the usual matchers it finds a file if some candidate defines all wanted classes in any case.
-/
theorem locate_lexicographic (s : Strategies) (d : Disk) (project : String) (c : LookupContext)
    (cache : TextCache) (hcache : CacheSound d (Resolver.usual project) cache) :
    let located := ((s.locate d project c).run cache).1
    let proposed := (s.locators.flatMap fun propose => propose c).map Path.normalize
    ((∀ path, path ∈ located.checked ↔ path ∈ proposed) ∧
        located.checked.Pairwise fun p q => proposed.idxOf p < proposed.idxOf q) ∧
      located.checked = proposals s.locators c ∧
      (∀ path text, located.found = some (path, text) ↔
        ∃ i j, s.Hit d project c i j path text ∧
          ∀ i' j' path' text', s.Hit d project c i' j' path' text' → i < i' ∨ i = i' ∧ j ≤ j') ∧
      (located.found = none ↔ ∀ i j path text, ¬ s.Hit d project c i j path text) ∧
      (s.matchers = [ClassMatcher.exact, .anyCase].map ClassMatcher.defines →
        (located.found.isSome ↔
          ∃ path ∈ located.checked, ∃ text, readText? d project path = some text ∧
            ∀ name ∈ c.classNames, ClassMatcher.anyCase.defines text name = true)) := by
  dsimp only
  rw [value_locate hcache]
  have hnone : (s.matchers.findSome? fun accepts =>
      (proposals s.locators c).findSome? (fit? d c.classNames project accepts)) = none ↔
        ∀ i j path text, ¬ s.Hit d project c i j path text := by
    rw [findSome?_findSome?_eq_none_iff]
    exact forall₂_congr fun i j => no_hit_iff
  refine ⟨⟨Text.mem_distinct _, Text.pairwise_distinct _⟩, rfl, fun path text => ?_, hnone, ?_⟩
  · rw [findSome?_findSome?_eq_some_iff]
    refine exists₂_congr fun i j => and_congr hit_iff.symm ?_
    constructor
    · -- a hit that comes before would have been found
      intro hleast i' j' path' text' hhit
      by_contra hbefore
      have hno := no_hit_iff.1 (hleast i' j' (by omega))
      exact hno path' text' hhit
    · intro hleast i' j' hbefore
      refine no_hit_iff.2 fun path' text' hhit => ?_
      have := hleast i' j' path' text' hhit
      omega
  · intro husual
    rw [← exists_hit_iff_anyCase husual, ← Option.ne_none_iff_isSome, Ne, hnone]
    simp only [not_forall, not_not]

end Strategies

/-- Two files that propose themselves, the second one in a roundabout way and with the first. -/
def twoFiles : Strategies :=
  ⟨[fun _ => ["/x/a.ts"], fun _ => ["/x/y/../b.ts", "/x/a.ts"]],
    [ClassMatcher.exact, .anyCase].map ClassMatcher.defines⟩

/-- The first file has the name of the class in another case only. -/
def twoFilesDisk : Disk :=
  ⟨[(["x"], .directory), (["x", "a.ts"], .file (Text.encodeUtf8 "class SERVICE")),
    (["x", "b.ts"], .file (Text.encodeUtf8 "class Service"))], []⟩

/-- The class is wanted. -/
def wantedService : LookupContext where
  project := "/x"
  kind := .service
  classNames := ["Service"]
  importPath := ""
  controllerDirectory := none
  moduleName := ""

theorem locate_lexicographic_twoFiles :
    let located := ((twoFiles.locate twoFilesDisk "/x" wantedService).run []).1
    located.checked = ["/x/a.ts", "/x/b.ts"] ∧
      located.found = some ("/x/b.ts", "class Service") ∧
      (∃ i j, twoFiles.Hit twoFilesDisk "/x" wantedService i j "/x/b.ts" "class Service" ∧
        ∀ i' j' path' text', twoFiles.Hit twoFilesDisk "/x" wantedService i' j' path' text' →
          i < i' ∨ i = i' ∧ j ≤ j') ∧
      ∃ path ∈ located.checked, ∃ text, readText? twoFilesDisk "/x" path = some text ∧
        ∀ name ∈ wantedService.classNames, ClassMatcher.anyCase.defines text name = true := by
  intro located
  obtain ⟨-, hchecked, hfound, -, husual⟩ := twoFiles.locate_lexicographic twoFilesDisk "/x"
    wantedService [] (cacheSound_nil _ _)
  have hsome : located.found = some ("/x/b.ts", "class Service") := by decide +kernel
  have hsucceeds : located.found.isSome = true := by rw [hsome]; rfl
  exact ⟨hchecked.trans (by decide +kernel), hsome, (hfound _ _).1 hsome, (husual rfl).1 hsucceeds⟩

end RoleAudit
