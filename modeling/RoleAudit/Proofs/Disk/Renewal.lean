import Mathlib.Data.List.Infix
import RoleAudit.Proofs.Disk.Way

/-!
# Making a directory again

A directory that is removed and made again is as it was made first, and so are those above it:

- `Disk.makePathFrom_again`: making a path twice is making it once, also when it fails;
- `Disk.Lacks`: there is nothing at a place; `Disk.Stands`: there are directories above it;
- `Disk.IsTree`: a disk on which everything stands in directories;
- `Disk.IsDirect`: a path does not lead through its own place;
- `Disk.IsDirect.removeDirectory_eq`, `Disk.IsDirect.makePath_renewed`: through such a path the place
  can be removed and made again.
-/

namespace RoleAudit
namespace Disk

open RoleAudit.Path

/-! ## Making a path twice -/

/-- Making one directory twice is making it once. -/
theorem ensureDirectory_again {d : Disk} (hd : d.IsPlaced) (path : String) :
    (d.ensureDirectory path).1.ensureDirectory path = d.ensureDirectory path := by
  rcases d.ensureDirectory_cases path with ⟨names, hplace, habsent, hmade⟩ | ⟨-, hstays⟩ |
    ⟨e, hstays, -⟩
  · -- the directory that was made is there now
    have hgrown : Grown (· = names) d (d.put names .directory) := Grown.put rfl habsent
    have hne : names ≠ [] := by
      rintro rfl
      simp [at?] at habsent
    have hthere : (d.put names .directory).at? names = some .directory := at?_put_self d _ hne
    have hplace' := hgrown.place_eq hd hplace
    have hfind := find_eq_ok_iff.2 ⟨place_of_bare hplace' hthere, hthere⟩
    have hdirectory := isDirectory_iff.2 ⟨names, hfind⟩
    rw [hmade]
    simp [ensureDirectory, makeDirectory, hplace', hthere, hdirectory]
  · rw [hstays]
    exact hstays
  · rw [hstays]
    exact hstays

/-- Where nothing is above a path, no directory can be made at it. -/
theorem ensureDirectory_of_not_hasAbove {d : Disk} {path : String} (h : d.hasAbove path = false) :
    (d.ensureDirectory path).1 = d := by
  rcases d.ensureDirectory_cases path with ⟨names, hplace, -, -⟩ | ⟨-, hstays⟩ | ⟨e, hstays, -⟩
  · rw [hasAbove_of_place_bare hplace] at h
    cases h
  · rw [hstays]
  · rw [hstays]

theorem hasAbove_of_isThere {d : Disk} {path : String} (h : d.isThere path = true) :
    d.hasAbove path = true := by
  rcases isThere_iff.1 h with ⟨names, e, hfind⟩
  exact hasAbove_of_place_bare (place_bare (find_eq_ok_iff.1 hfind).1)

/-- A directory that could not be made is not there, unless something else is. -/
theorem isThere_of_ensureDirectory_error {d : Disk} {path : String} {e : DiskError}
    (h : (d.ensureDirectory path).2 = .error e) (he : e.cause ≠ .occupied) :
    (d.ensureDirectory path).1.isThere path = false := by
  rcases d.ensureDirectory_cases path with ⟨names, -, -, hmade⟩ | ⟨-, hstays⟩ | ⟨e', hstays, hcause⟩
  · rw [hmade] at h
    cases h
  · rw [hstays] at h
    cases h
  · rw [hstays] at h ⊢
    cases h
    rcases hcause with hoccupied | ⟨cause, hplace⟩
    · exact absurd hoccupied he
    · apply Bool.eq_false_iff.2
      intro hthere
      rcases isThere_iff.1 hthere with ⟨names, there, hfind⟩
      rw [place_bare (find_eq_ok_iff.1 hfind).1] at hplace
      cases hplace

/-- A path that could not be made leads to nothing, unless something else is there. -/
theorem isThere_of_makePathFrom_error {steps : Nat} {d : Disk} {path : String} {e : DiskError}
    (h : (makePathFrom steps d path).2 = .error e) (he : e.cause ≠ .occupied) :
    (makePathFrom steps d path).1.isThere path = false := by
  induction steps generalizing d path e with
  | zero => cases h
  | succ steps ih =>
      rcases makePathFrom_cases steps d path with ⟨-, hnow⟩ |
        ⟨hupper, hthen | ⟨e', herror, he', hfails⟩⟩
      · rw [hnow] at h ⊢
        exact isThere_of_ensureDirectory_error h he
      · rw [hthen] at h ⊢
        exact isThere_of_ensureDirectory_error h he
      · -- what leads somewhere has something above it
        rw [hfails]
        have habove := hasAbove_eq_false_iff.2 ⟨(hasAbove_eq_false_iff.1 hupper).1, ih herror he'⟩
        apply Bool.eq_false_iff.2
        intro hthere
        rw [hasAbove_of_isThere hthere] at habove
        cases habove

/-- Making a path twice is making it once, also when it fails. -/
theorem makePathFrom_again (steps : Nat) {d : Disk} (hd : d.IsPlaced) (path : String) :
    makePathFrom steps (makePathFrom steps d path).1 path = makePathFrom steps d path := by
  induction steps generalizing d path with
  | zero => rfl
  | succ steps ih =>
      cases hupper : d.hasAbove path with
      | true =>
          -- what is above stays, so that only the last step is left
          have hstill := (grown_ensureDirectory hd path).hasAbove hd hupper
          rw [makePathFrom_of_hasAbove steps hupper, makePathFrom_of_hasAbove steps hstill,
            ensureDirectory_again hd]
      | false =>
          have hagain := ih hd (above path)
          have hplaced := isPlaced_congr (grown_makePathFrom steps hd (above path)).workplace hd
          -- while nothing is above, making the path again makes the same things again
          have hsame : (makePathFrom steps d (above path)).1.hasAbove path = false →
              makePathFrom (steps + 1) (makePathFrom steps d (above path)).1 path =
                makePathFrom (steps + 1) d path := by
            intro hnone
            rw [makePathFrom_of_not_hasAbove steps hnone, makePathFrom_of_not_hasAbove steps hupper,
              hagain]
          rcases makePathFrom_cases steps d path with ⟨htrue, -⟩ |
            ⟨-, hthen | ⟨e, herror, he, hfails⟩⟩
          · rw [htrue] at hupper
            cases hupper
          · rw [hthen] at hsame ⊢
            cases hnone : (makePathFrom steps d (above path)).1.hasAbove path with
            | true =>
                have hstill := (grown_ensureDirectory hplaced path).hasAbove hplaced hnone
                rw [makePathFrom_of_hasAbove steps hstill, ensureDirectory_again hplaced]
            | false =>
                rw [ensureDirectory_of_not_hasAbove hnone]
                exact hsame hnone
          · rw [hfails] at hsame ⊢
            apply hsame
            exact hasAbove_eq_false_iff.2 ⟨(hasAbove_eq_false_iff.1 hupper).1,
              isThere_of_makePathFrom_error herror he⟩

/-! ## Removing and making -/

/-- There is nothing at some names, nor below them. -/
def Lacks (d : Disk) (names : List String) : Prop :=
  ∀ entry ∈ d.entries, ¬ names <+: entry.1

theorem lacks_removeTree (d : Disk) (names : List String) : (d.removeTree names).Lacks names := by
  intro entry hentry hfront
  have hkept := (List.mem_filter.1 hentry).2
  simp [List.isPrefixOf_iff_prefix.2 hfront] at hkept

theorem Lacks.removeTree_eq {d : Disk} {names : List String} (h : d.Lacks names) :
    d.removeTree names = d := by
  have hkept : d.entries.filter (fun entry => !names.isPrefixOf entry.1) = d.entries := by
    apply List.filter_eq_self.2
    intro entry hentry
    have hfront : names.isPrefixOf entry.1 = false := by
      apply Bool.eq_false_iff.2
      exact fun hfront => h entry hentry (List.isPrefixOf_iff_prefix.1 hfront)
    simp [hfront]
  unfold removeTree
  rw [hkept]

theorem Lacks.at?_eq {d : Disk} {names : List String} (h : d.Lacks names) (hne : names ≠ []) :
    d.at? names = none := by
  unfold at?
  rw [if_neg (by simpa using hne)]
  apply List.lookup_eq_none_iff.2
  intro entry hentry
  rw [bne_iff_ne]
  rintro rfl
  exact h entry hentry (List.prefix_refl _)

/-- A disk still lacks what it lacked when it has grown elsewhere. -/
theorem Lacks.of_grown {made : List String → Prop} {d d' : Disk} {names : List String}
    (h : d.Lacks names) (hgrown : Grown made d d') (hmade : ∀ n, made n → ¬ names <+: n) :
    d'.Lacks names := by
  rcases hgrown.entries with ⟨new, hentries, hnew⟩
  intro entry hentry
  rw [hentries] at hentry
  rcases List.mem_append.1 hentry with hentry | hentry
  · exact h entry hentry
  · rcases List.mem_map.1 hentry with ⟨n, hn, rfl⟩
    exact hmade n (hnew n hn).1

/-- New directories at some names or below them are removed with them. -/
theorem Grown.removeTree_eq {made : List String → Prop} {d d' : Disk} {names : List String}
    (h : Grown made d d') (hmade : ∀ n, made n → names <+: n) :
    d'.removeTree names = d.removeTree names := by
  rcases h.entries with ⟨new, hentries, hnew⟩
  have hnone : (new.map fun n => (n, DiskEntry.directory)).filter
      (fun entry => !names.isPrefixOf entry.1) = [] := by
    apply List.filter_eq_nil_iff.2
    intro entry hentry
    rcases List.mem_map.1 hentry with ⟨n, hn, rfl⟩
    simp [List.isPrefixOf_iff_prefix.2 (hmade n (hnew n hn).1)]
  simp [removeTree, h.workplace, hentries, hnone]

/-- What is put at some names or below them is removed with them. -/
theorem removeTree_put (d : Disk) (e : DiskEntry) {names below : List String}
    (h : names <+: below) : (d.put below e).removeTree names = d.removeTree names := by
  have hfront : names.isPrefixOf below = true := List.isPrefixOf_iff_prefix.2 h
  unfold removeTree put
  dsimp only
  congr 1
  rw [List.filter_append, List.filter_filter]
  have hnone : [(below, e)].filter (fun entry => !names.isPrefixOf entry.1) = [] := by
    simp [hfront]
  rw [hnone, List.append_nil]
  apply List.filter_congr
  intro entry _
  by_cases hbelow : entry.1 = below
  · simp [hbelow, hfront]
  · simp [hbelow]

theorem at?_emptied_self (d : Disk) (names : List String) :
    (d.emptied names).at? names = d.at? names := by
  unfold emptied at?
  dsimp only
  rw [lookup_filter_names fun n => n == names || !names.isPrefixOf n]
  simp

/-- What is removed with some names need not be removed before. -/
theorem removeTree_emptied (d : Disk) (names : List String) :
    (d.emptied names).removeTree names = d.removeTree names := by
  unfold removeTree emptied
  dsimp only
  rw [List.filter_filter]
  congr 1
  apply List.filter_congr
  intro entry _
  cases names.isPrefixOf entry.1 <;> simp

/-! ## What stands above -/

/-- Everything above some names is a directory. -/
def Stands (d : Disk) (names : List String) : Prop :=
  ∀ above, above <+: names → above ≠ names → d.at? above = some .directory

instance (d : Disk) (names : List String) : Decidable (d.Stands names) :=
  decidable_of_iff (∀ above ∈ names.inits, above ≠ names → d.at? above = some .directory) (by
    simp only [List.mem_inits, Stands])

namespace Stands

variable {d : Disk} {here there : List String}

theorem root (d : Disk) : d.Stands [] := by
  intro above habove hne
  exact absurd (List.prefix_nil.1 habove) hne

/-- What a name leads to stands where the directory does that it is followed from. -/
theorem follow (h : d.Stands here) {s : String} (hfollow : d.follow here s = .ok there) :
    d.Stands there := by
  have hdirectory := at?_of_follow hfollow
  -- the directory itself and those above it
  have hfront : ∀ above, above <+: here → d.at? above = some .directory := by
    intro above habove
    by_cases hsame : above = here
    · rw [hsame, hdirectory]
    · exact h above habove hsame
  unfold Disk.follow at hfollow
  rw [hdirectory] at hfollow
  dsimp only at hfollow
  intro above hprefix hne
  apply hfront
  split at hfollow
  · cases hfollow
    exact hprefix
  · split at hfollow
    · cases hfollow
      exact hprefix.trans (List.dropLast_prefix here)
    · split at hfollow
      · cases hfollow
      · cases hfollow
        exact (List.prefix_concat_iff.1 hprefix).resolve_left hne

theorem foldlM {segs : List String} (h : d.Stands here)
    (hfollow : segs.foldlM d.follow here = .ok there) : d.Stands there := by
  induction segs generalizing here with
  | nil =>
      cases hfollow
      exact h
  | cons s rest ih =>
      rcases foldlM_follow_cons.1 hfollow with ⟨next, hnext, hlater⟩
      exact ih (h.follow hnext) hlater

/-- What a path leads to stands in directories if its start does. -/
theorem place {path : String} {names : List String} (h : d.Stands (d.start path))
    (hplace : d.place path = .ok names) : d.Stands names := by
  rw [place_eq_of_ne_empty d (ne_empty_of_place hplace)] at hplace
  exact h.foldlM hplace

theorem congr {d' : Disk} (h : d.Stands here)
    (hsame : ∀ above, above <+: here → above ≠ here → d.at? above = some .directory →
      d'.at? above = some .directory) : d'.Stands here :=
  fun above habove hne => hsame above habove hne (h above habove hne)

end Stands

/-- A disk as it can be: what exists stands in directories, and paths start in one of them. -/
structure IsTree (d : Disk) : Prop where
  placed : d.IsPlaced
  workplace : d.at? d.workplace = some .directory
  entries : ∀ entry ∈ d.entries, d.Stands entry.1

namespace IsTree

variable {d : Disk} (h : d.IsTree)

include h

theorem stands {names : List String} {e : DiskEntry} (hat : d.at? names = some e) :
    d.Stands names := by
  by_cases hroot : names = []
  · subst hroot
    exact Stands.root d
  · unfold at? at hat
    rw [if_neg (by simpa using hroot)] at hat
    rcases List.lookup_eq_some_iff.1 hat with ⟨before, after, hentries, -⟩
    apply h.entries (names, e)
    rw [hentries]
    simp

theorem stands_start (path : String) : d.Stands (d.start path) := by
  unfold start
  split
  · exact Stands.root d
  · exact h.stands h.workplace

/-- Where there is nothing, there is nothing below. -/
theorem lacks {names : List String} (habsent : d.at? names = none) : d.Lacks names := by
  intro entry hentry hfront
  have hne : ¬ entry.1.isEmpty = true := by
    intro hroot
    rw [List.isEmpty_iff.1 hroot] at hfront
    rw [List.prefix_nil.1 hfront] at habsent
    cases habsent
  by_cases hsame : names = entry.1
  · rw [hsame, at?, if_neg hne] at habsent
    have hother := List.lookup_eq_none_iff.1 habsent entry hentry
    simp at hother
  · have hdirectory := h.entries entry hentry names hfront hsame
    rw [habsent] at hdirectory
    cases hdirectory

end IsTree

/-! ## Paths that do not lead through their own place -/

/-- On its way to its place the path does not lead through it. -/
def IsDirect (d : Disk) (path : String) : Prop :=
  parts path ≠ [] ∧ ∀ firsts, firsts <+: parts path → firsts ≠ parts path →
    ¬ d.namesAt path <+: resolveSegments true (d.start path).reverse firsts

instance (d : Disk) (path : String) : Decidable (d.IsDirect path) :=
  decidable_of_iff (parts path ≠ [] ∧ ∀ firsts ∈ (parts path).inits, firsts ≠ parts path →
    ¬ d.namesAt path <+: resolveSegments true (d.start path).reverse firsts) (by
      simp only [List.mem_inits, IsDirect])

theorem isDirect_congr {d d' : Disk} (h : d'.workplace = d.workplace) {path : String}
    (hdirect : d.IsDirect path) : d'.IsDirect path := by
  unfold IsDirect
  rw [namesAt_congr h, start_congr h]
  exact hdirect

theorem namesAt_bare (d : Disk) {path : String} (h : bare path ≠ "") :
    d.namesAt (bare path) = d.namesAt path := by
  unfold namesAt
  rw [parts_bare, start_eq_of_begins d (begins_bare path) h]

namespace IsDirect

variable {d : Disk} {path : String} (h : d.IsDirect path)

include h

theorem not_prefix_start : ¬ d.namesAt path <+: d.start path := by
  have hnone := h.2 [] List.nil_prefix h.1.symm
  simpa [resolveSegments] using hnone

theorem namesAt_ne_nil : d.namesAt path ≠ [] := by
  intro hroot
  apply h.not_prefix_start
  rw [hroot]
  exact List.nil_prefix

/-- What is above the path leads to nothing at its place. -/
theorem not_prefix_of_prefix_above {firsts : List String} (hfirsts : firsts <+: parts (above path)) :
    ¬ d.namesAt path <+: resolveSegments true (d.start path).reverse firsts := by
  have hparts := parts_eq_above_concat h.1
  apply h.2 firsts
  · rw [hparts]
    exact hfirsts.trans (List.prefix_append _ _)
  · intro hall
    have hlength := hfirsts.length_le
    rw [hall, hparts, List.length_append, List.length_singleton] at hlength
    omega

theorem not_prefix_of_leadsThrough_above (hne : above path ≠ "") {names : List String}
    (hthrough : d.LeadsThrough (above path) names) : ¬ d.namesAt path <+: names := by
  rcases hthrough with ⟨firsts, hfirsts, rfl⟩
  rw [start_eq_of_begins d (begins_above path) hne]
  exact h.not_prefix_of_prefix_above hfirsts

theorem bare_ne_empty : bare path ≠ "" := by
  intro hempty
  have hparts := parts_bare path
  rw [hempty, parts_empty] at hparts
  exact h.1 hparts.symm

/-- A dot at the end would lead to what the path above leads to. -/
theorem baseName_bare_ne_dot : baseName (bare path) ≠ "." := by
  intro hdot
  apply h.not_prefix_of_prefix_above (List.prefix_refl _)
  unfold namesAt
  rw [parts_eq_above_concat h.1, hdot, resolveSegments_append,
    resolveSegments_skip true _ [] (Or.inr rfl)]
  simp [resolveSegments]

/-- A direct path leads to the same names whatever happens at its place. -/
theorem place_bare_congr (hd : d.IsPlaced) {d' : Disk} (hworkplace : d'.workplace = d.workplace)
    (houtside : ∀ names, ¬ d.namesAt path <+: names → d'.at? names = d.at? names)
    {names : List String} (hplace : d.place (bare path) = .ok names) :
    d'.place (bare path) = .ok names := by
  have hne := h.bare_ne_empty
  rw [place_eq_of_ne_empty _ hne, start_eq_of_begins d (begins_bare path) hne] at hplace
  rw [place_eq_of_ne_empty _ hne, start_congr hworkplace,
    start_eq_of_begins d (begins_bare path) hne]
  rcases segments_concat_baseName (bare path) with ⟨init, hsegments⟩
  have habove : init.filter (fun s => !s.isEmpty) = parts (above path) := by
    have hparts := parts_eq_above_concat h.1
    have hlast : ([baseName (bare path)].filter fun s => !s.isEmpty) = [baseName (bare path)] := by
      simpa [String.isEmpty_iff] using baseName_bare_ne_empty h.1
    rw [← parts_bare, parts, hsegments, List.filter_append, hlast] at hparts
    exact List.append_cancel_right hparts
  apply foldlM_follow_congr (fun n hn => (isName_start hd path n hn).2.2.1) hplace
  intro before hbefore hshorter hthere
  -- a shorter way is one above the path
  have hinit : before <+: init := by
    rw [hsegments] at hbefore hshorter
    exact (List.prefix_concat_iff.1 hbefore).resolve_left hshorter
  rw [← resolveSegments_filter] at hthere ⊢
  rwa [houtside]
  apply h.not_prefix_of_prefix_above
  rw [← habove]
  exact hinit.filter _

/-- The directory that a direct path leads to is removed with all below it. -/
theorem removeDirectory_eq (hd : d.IsPlaced)
    (hfind : d.find path = .ok (d.namesAt path, .directory)) :
    d.removeDirectory path (d.namesAt path) = (d.removeTree (d.namesAt path), none) := by
  rcases find_eq_ok_iff.1 hfind with ⟨hplace, hat⟩
  -- the path still leads there when all below is removed
  have hstill : (d.emptied (d.namesAt path)).place path = .ok (d.namesAt path) := by
    have hworkplace : (d.emptied (d.namesAt path)).workplace = d.workplace := rfl
    have hbare : (d.emptied (d.namesAt path)).place (bare path) = .ok (d.namesAt path) :=
      h.place_bare_congr hd hworkplace (fun _ hnames => at?_emptied d hnames) (place_bare hplace)
    exact place_of_bare hbare ((at?_emptied_self d _).trans hat)
  simp [removeDirectory, hstill, h.baseName_bare_ne_dot, h.namesAt_ne_nil, removeTree_emptied]

/-- Before its last step, making a direct path leaves its place alone. -/
theorem exists_before_last (hd : d.IsPlaced) (habsent : d.Lacks (d.namesAt path)) :
    ∃ before : Disk, before.Lacks (d.namesAt path) ∧ Grown (d.LeadsThrough path) d before ∧
      (d.makePath path = before.ensureDirectory path ∨
        ∃ e, d.makePath path = (before, .error e)) := by
  unfold makePath
  rcases makePathFrom_cases path.length d path with ⟨-, hnow⟩ | ⟨hupper, hrest⟩
  · exact ⟨d, habsent, Grown.refl d, Or.inl hnow⟩
  · have hne := (hasAbove_eq_false_iff.1 hupper).1
    have hgrown := grown_makePathFrom path.length hd (above path)
    have hlacks : (makePathFrom path.length d (above path)).1.Lacks (d.namesAt path) := by
      apply habsent.of_grown hgrown
      exact fun names hthrough => h.not_prefix_of_leadsThrough_above hne hthrough
    have hway := hgrown.mono fun names hthrough _ => hthrough.of_begins (begins_above path) hne
    rcases hrest with hthen | ⟨e, -, -, hfails⟩
    · exact ⟨_, hlacks, hway, Or.inl hthen⟩
    · exact ⟨_, hlacks, hway, Or.inr ⟨e, hfails⟩⟩

/--
Where there is nothing at its place, making a direct path makes a directory there or fails. Without
that directory, making the path again does the same.
-/
theorem makePath_renewed (hd : d.IsPlaced) (habsent : d.Lacks (d.namesAt path)) :
    ∃ rest : Disk, rest.Lacks (d.namesAt path) ∧ Grown (d.LeadsThrough path) d rest ∧
      rest.makePath path = d.makePath path ∧
      ((rest.place (bare path) = .ok (d.namesAt path) ∧
          d.makePath path = (rest.put (d.namesAt path) .directory, .ok ())) ∨
        ∃ e, d.makePath path = (rest, .error e)) := by
  have hagain : (d.makePath path).1.makePath path = d.makePath path :=
    makePathFrom_again (path.length + 1) hd path
  rcases h.exists_before_last hd habsent with ⟨rest, hlacks, hgrown, hlast⟩
  have hplaced := isPlaced_congr hgrown.workplace hd
  have hnames := namesAt_congr hgrown.workplace path
  refine ⟨rest, hlacks, hgrown, ?_⟩
  -- a failure leaves what was there before the last step, and it fails again
  have hfailed : ∀ e, d.makePath path = (rest, .error e) →
      rest.makePath path = d.makePath path := by
    intro e hfails
    simpa only [hfails] using hagain
  rcases hlast with hlast | ⟨e, hfails⟩
  · rcases rest.ensureDirectory_cases path with ⟨names, hplace, -, hmade⟩ |
      ⟨hdirectory, -⟩ | ⟨e, hstays, -⟩
    · have hsame : names = d.namesAt path := by
        rw [namesAt_of_place hplaced hplace, namesAt_bare rest h.bare_ne_empty, hnames]
      subst hsame
      have hnow : rest.makePath path = d.makePath path := by
        rw [hlast]
        exact makePathFrom_of_hasAbove path.length (hasAbove_of_place_bare hplace)
      exact ⟨hnow, Or.inl ⟨hplace, hlast.trans hmade⟩⟩
    · -- nothing was there, so no directory was
      rcases isDirectory_iff.1 hdirectory with ⟨names, hfind⟩
      have hat := (find_eq_ok_iff.1 hfind).2
      rw [namesAt_of_find hplaced hfind, hnames, hlacks.at?_eq h.namesAt_ne_nil] at hat
      cases hat
    · have hfails := hlast.trans hstays
      exact ⟨hfailed e hfails, Or.inr ⟨e, hfails⟩⟩
  · exact ⟨hfailed e hfails, Or.inr ⟨e, hfails⟩⟩

end IsDirect

/-- A directory that could be made is there. -/
theorem isDirectory_of_ensureDirectory {d : Disk} (hd : d.IsPlaced) {path : String}
    (h : (d.ensureDirectory path).2 = .ok ()) : (d.ensureDirectory path).1.isDirectory path = true := by
  rcases d.ensureDirectory_cases path with ⟨names, hplace, habsent, hmade⟩ | ⟨hdirectory, hstays⟩ |
    ⟨e, hfails, -⟩
  · have hgrown : Grown (· = names) d (d.put names .directory) := Grown.put rfl habsent
    have hne : names ≠ [] := by
      rintro rfl
      cases habsent
    have hthere := at?_put_self d .directory hne
    rw [hmade]
    exact isDirectory_iff.2 ⟨names, find_eq_ok_iff.2
      ⟨place_of_bare (hgrown.place_eq hd hplace) hthere, hthere⟩⟩
  · rw [hstays]
    exact hdirectory
  · rw [hfails] at h
    cases h

/-- A path that could be made leads to a directory, since the last step has made it. -/
theorem isDirectory_of_makePathFrom {d : Disk} (hd : d.IsPlaced) {path : String} {steps : Nat}
    (h : (makePathFrom (steps + 1) d path).2 = .ok ()) :
    (makePathFrom (steps + 1) d path).1.isDirectory path = true := by
  rcases makePathFrom_cases steps d path with ⟨-, hnow⟩ | ⟨-, hthen | ⟨e, -, -, hfails⟩⟩
  · rw [hnow] at h ⊢
    exact isDirectory_of_ensureDirectory hd h
  · have hgrown := grown_makePathFrom steps hd (above path)
    rw [hthen] at h ⊢
    exact isDirectory_of_ensureDirectory (isPlaced_congr hgrown.workplace hd) h
  · rw [hfails] at h
    cases h

/-- Where a path leads that could be made, there is a directory. -/
theorem at?_of_makePath {d : Disk} (hd : d.IsPlaced) {path : String}
    (h : (d.makePath path).2 = .ok ()) :
    (d.makePath path).1.at? (d.namesAt path) = some .directory := by
  have hgrown := grown_makePath hd path
  have hdirectory := isDirectory_of_makePathFrom hd h
  rcases isDirectory_iff.1 hdirectory with ⟨names, hfind⟩
  have hnames := namesAt_of_find (isPlaced_congr hgrown.workplace hd) hfind
  rw [← namesAt_congr hgrown.workplace, ← hnames]
  exact (find_eq_ok_iff.1 hfind).2

end Disk
end RoleAudit
