import RoleAudit.Proofs.Disk.Changes
import RoleAudit.Proofs.Path.Ends

/-!
# The way of a path

Where a path leads depends on the directories on its way, and on nothing else:

- `Disk.foldlM_follow_congr`: a disk that has these directories leads the path to the same names;
- `Disk.at?_of_leadsThrough`: and they are all there, if it leads anywhere;
- `Disk.Grown.find_eq`: so a path finds what it found before when directories are made;
- `Disk.place_bare`, `Disk.place_of_bare`: slashes at the end of a path ask for a directory only;
- `Disk.isThere_parent`, `Disk.hasAbove_of_place_bare`: what a path leads to stands in something that
  is there.
-/

namespace RoleAudit
namespace Disk

open RoleAudit.Path

/-! ## Following on another disk -/

/-- A name is followed from a directory. -/
theorem at?_of_follow {d : Disk} {here there : List String} {s : String}
    (h : d.follow here s = .ok there) : d.at? here = some .directory := by
  unfold follow at h
  split at h
  · cases h
  · cases h
  · assumption

/-- What a name leads to depends on whether it is followed from a directory. -/
theorem follow_congr {d d' : Disk} {here there : List String} {s : String}
    (h : d.follow here s = .ok there) (hhere : d'.at? here = some .directory) :
    d'.follow here s = .ok there := by
  have hsame : d'.follow here s = d.follow here s := by
    unfold follow
    rw [at?_of_follow h, hhere]
  rw [hsame, h]

/-- A path leads to the same names on another disk that has the directories on its way. -/
theorem foldlM_follow_congr {d d' : Disk} {here there segs : List String}
    (hhere : ∀ n ∈ here, n ≠ "..") (h : segs.foldlM d.follow here = .ok there)
    (hway : ∀ before, before <+: segs → before ≠ segs →
      d.at? (resolveSegments true here.reverse before) = some .directory →
      d'.at? (resolveSegments true here.reverse before) = some .directory) :
    segs.foldlM d'.follow here = .ok there := by
  induction segs generalizing here with
  | nil => exact h
  | cons s rest ih =>
      rcases foldlM_follow_cons.1 h with ⟨next, hnext, hlater⟩
      rcases follow_eq hhere hnext with ⟨hclean, hresolve⟩
      -- the way begins where it starts, and goes on where the first name leads
      have hstart : d'.at? here = some .directory := by
        have hnone := hway [] List.nil_prefix (by simp)
        simp only [resolveSegments, List.reverse_reverse] at hnone
        exact hnone (at?_of_follow hnext)
      have hrest : ∀ before, before <+: rest → before ≠ rest →
          d.at? (resolveSegments true next.reverse before) = some .directory →
          d'.at? (resolveSegments true next.reverse before) = some .directory := by
        intro before hbefore hne
        have hlonger := hway (s :: before) (List.cons_prefix_cons.2 ⟨rfl, hbefore⟩) (by simpa using hne)
        rwa [hresolve] at hlonger
      exact foldlM_follow_cons.2 ⟨next, follow_congr hnext hstart, ih hclean hlater hrest⟩

theorem place_eq_of_ne_empty (d : Disk) {path : String} (h : path ≠ "") :
    d.place path = (segments path).foldlM d.follow (d.start path) := by
  unfold place
  rw [if_neg (by simpa [String.isEmpty_iff] using h)]

theorem ne_empty_of_place {d : Disk} {path : String} {names : List String}
    (h : d.place path = .ok names) : path ≠ "" := by
  rintro rfl
  simp [place] at h

/-- A path leads through directories, up to where it leads. -/
theorem at?_of_foldlM_follow {d : Disk} {here there segs : List String}
    (hhere : ∀ n ∈ here, n ≠ "..") (h : segs.foldlM d.follow here = .ok there)
    {before : List String} (hbefore : before <+: segs) (hne : before ≠ segs) :
    d.at? (resolveSegments true here.reverse before) = some .directory := by
  induction segs generalizing here before with
  | nil => exact absurd (List.prefix_nil.1 hbefore) hne
  | cons s rest ih =>
      rcases foldlM_follow_cons.1 h with ⟨next, hnext, hlater⟩
      rcases follow_eq hhere hnext with ⟨hclean, hresolve⟩
      cases before with
      | nil => simpa [resolveSegments] using at?_of_follow hnext
      | cons s' before =>
          rcases List.cons_prefix_cons.1 hbefore with ⟨rfl, hrest⟩
          rw [hresolve]
          exact ih hclean hlater hrest (by simpa using hne)

theorem at?_of_leadsThrough {d : Disk} (hd : d.IsPlaced) {path : String}
    {names through : List String} (hplace : d.place path = .ok names)
    (hthrough : d.LeadsThrough path through) :
    through = names ∨ d.at? through = some .directory := by
  have hsame := namesAt_of_place hd hplace
  rcases hthrough with ⟨firsts, hfirsts, rfl⟩
  -- the parts come from segments, and the empty ones among them lead nowhere else
  rcases List.prefix_filter_iff.1 hfirsts with ⟨before, hbefore, rfl⟩
  by_cases hne : before = segments path
  · left
    rw [hsame, hne]
    rfl
  · right
    rw [place_eq_of_ne_empty d (ne_empty_of_place hplace)] at hplace
    rw [resolveSegments_filter]
    exact at?_of_foldlM_follow (fun n hn => (isName_start hd path n hn).2.2.1) hplace hbefore hne

/-- A path still leads to the same names when the disk has grown. -/
theorem Grown.place_eq {made : List String → Prop} {d d' : Disk} (h : Grown made d d')
    (hd : d.IsPlaced) {path : String} {names : List String} (hplace : d.place path = .ok names) :
    d'.place path = .ok names := by
  unfold place at hplace ⊢
  split at hplace
  · cases hplace
  · rename_i hpath
    rw [if_neg hpath, start_congr h.workplace]
    exact foldlM_follow_congr (fun n hn => (isName_start hd path n hn).2.2.1) hplace
      fun before _ _ hthere => h.at?_eq hthere

theorem isThere_iff {d : Disk} {path : String} :
    d.isThere path = true ↔ ∃ names e, d.find path = .ok (names, e) := by
  unfold isThere
  cases d.find path with
  | error cause => simp
  | ok found => exact ⟨fun _ => ⟨found.1, found.2, rfl⟩, fun _ => rfl⟩

theorem isDirectory_iff {d : Disk} {path : String} :
    d.isDirectory path = true ↔ ∃ names, d.find path = .ok (names, .directory) := by
  unfold isDirectory
  rcases d.find path with cause | ⟨names, _ | content⟩
  · simp
  · exact ⟨fun _ => ⟨names, rfl⟩, fun _ => rfl⟩
  · simp

/-- What a path leads to, it still leads to when the disk has grown. -/
theorem Grown.find_eq {made : List String → Prop} {d d' : Disk} (h : Grown made d d')
    (hd : d.IsPlaced) {path : String} {names : List String} {e : DiskEntry}
    (hfind : d.find path = .ok (names, e)) : d'.find path = .ok (names, e) := by
  rcases find_eq_ok_iff.1 hfind with ⟨hplace, hat⟩
  exact find_eq_ok_iff.2 ⟨h.place_eq hd hplace, h.at?_eq hat⟩

theorem Grown.hasAbove {made : List String → Prop} {d d' : Disk} (h : Grown made d d')
    (hd : d.IsPlaced) {path : String} (hupper : d.hasAbove path = true) :
    d'.hasAbove path = true := by
  rcases Bool.or_eq_true_iff.1 hupper with hempty | hthere
  · exact Bool.or_eq_true_iff.2 (Or.inl hempty)
  · rcases isThere_iff.1 hthere with ⟨names, e, hfind⟩
    exact Bool.or_eq_true_iff.2 (Or.inr (isThere_iff.2 ⟨names, e, h.find_eq hd hfind⟩))

/-! ## The end of a path -/

theorem segments_slash (cs : List Char) :
    segments (String.ofList ('/' :: cs).reverse) = segments (String.ofList cs.reverse) ++ [""] := by
  have hwhole : String.ofList ('/' :: cs).reverse = String.ofList cs.reverse ++ "/" ++ "" := by
    rw [← String.toList_inj]
    simp
  rw [hwhole, segments_append]
  rfl

theorem follow_empty_iff {d : Disk} {here there : List String} :
    d.follow here "" = .ok there ↔ here = there ∧ d.at? here = some .directory := by
  constructor
  · intro h
    have hdirectory := at?_of_follow h
    unfold follow at h
    rw [hdirectory] at h
    exact ⟨by simpa using h, hdirectory⟩
  · rintro ⟨rfl, hdirectory⟩
    unfold follow
    rw [hdirectory]
    rfl

/-- The last name of a way is followed from where the others lead. -/
theorem foldlM_follow_concat {d : Disk} {here there before : List String} {s : String} :
    (before ++ [s]).foldlM d.follow here = .ok there ↔
      ∃ between, before.foldlM d.follow here = .ok between ∧ d.follow between s = .ok there := by
  rw [List.foldlM_append]
  cases before.foldlM d.follow here with
  | error cause => simp [bind, Except.bind]
  | ok between =>
      cases hlast : d.follow between s <;>
        simp [bind, Except.bind, pure, Except.pure, hlast]

/-- A slash at the end of a path asks for a directory and leads nowhere else. -/
theorem foldlM_follow_slash (d : Disk) (here there : List String) (cs : List Char) :
    (segments (String.ofList ('/' :: cs).reverse)).foldlM d.follow here = .ok there ↔
      (segments (String.ofList cs.reverse)).foldlM d.follow here = .ok there ∧
        d.at? there = some .directory := by
  rw [segments_slash, foldlM_follow_concat]
  simp only [follow_empty_iff]
  constructor
  · rintro ⟨between, hbefore, rfl, hdirectory⟩
    exact ⟨hbefore, hdirectory⟩
  · rintro ⟨hbefore, hdirectory⟩
    exact ⟨there, hbefore, rfl, hdirectory⟩

/-- Without the slashes at its end a path leads where it leads with them. -/
theorem foldlM_follow_dropWhile {d : Disk} {here there : List String} {cs : List Char}
    (h : (segments (String.ofList cs.reverse)).foldlM d.follow here = .ok there) :
    (segments (String.ofList (cs.dropWhile (· == '/')).reverse)).foldlM d.follow here =
      .ok there := by
  induction cs with
  | nil => exact h
  | cons c rest ih =>
      by_cases hc : c = '/'
      · subst hc
        rw [List.dropWhile_cons_of_pos (by rfl)]
        exact ih ((foldlM_follow_slash d here there rest).1 h).1
      · rwa [List.dropWhile_cons_of_neg (by simpa using hc)]

/-- With slashes at its end a path leads where it leads without them, if that is a directory. -/
theorem foldlM_follow_of_dropWhile {d : Disk} {here there : List String} {cs : List Char}
    (hdirectory : d.at? there = some .directory)
    (h : (segments (String.ofList (cs.dropWhile (· == '/')).reverse)).foldlM d.follow here =
      .ok there) :
    (segments (String.ofList cs.reverse)).foldlM d.follow here = .ok there := by
  induction cs with
  | nil => exact h
  | cons c rest ih =>
      by_cases hc : c = '/'
      · subst hc
        rw [List.dropWhile_cons_of_pos (by rfl)] at h
        exact (foldlM_follow_slash d here there rest).2 ⟨ih h, hdirectory⟩
      · rwa [List.dropWhile_cons_of_neg (by simpa using hc)] at h

theorem place_bare {d : Disk} {path : String} {names : List String}
    (h : d.place path = .ok names) : d.place (bare path) = .ok names := by
  have hpath := ne_empty_of_place h
  have hwhole : path = String.ofList path.toList.reverse.reverse := by simp
  unfold bare
  dsimp only
  split
  · exact h
  · rename_i hrest
    -- a path of nothing but slashes stays, and any other one loses those at its end
    have hne : String.ofList (path.toList.reverse.dropWhile (· == '/')).reverse ≠ "" := by
      simpa using hrest
    have hbegins := begins_dropWhile_slash path.toList.reverse
    rw [← hwhole] at hbegins
    rw [place_eq_of_ne_empty d hpath] at h
    rw [place_eq_of_ne_empty d hne, start_eq_of_begins d hbegins hne]
    apply foldlM_follow_dropWhile
    rwa [← hwhole]

theorem place_of_bare {d : Disk} {path : String} {names : List String}
    (h : d.place (bare path) = .ok names) (hdirectory : d.at? names = some .directory) :
    d.place path = .ok names := by
  have hwhole : path = String.ofList path.toList.reverse.reverse := by simp
  unfold bare at h
  dsimp only at h
  split at h
  · exact h
  · -- the slashes at the end need a directory in front of them
    have hne := ne_empty_of_place h
    have hbegins := begins_dropWhile_slash path.toList.reverse
    rw [← hwhole] at hbegins
    have hpath : path ≠ "" := by
      rintro rfl
      exact hne rfl
    rw [place_eq_of_ne_empty d hne, start_eq_of_begins d hbegins hne] at h
    have hfull := foldlM_follow_of_dropWhile hdirectory h
    rw [place_eq_of_ne_empty d hpath]
    rwa [← hwhole] at hfull

/-- Nothing but slashes leads to the root. -/
theorem find_slashes (d : Disk) {cs : List Char} (hne : cs ≠ []) (h : ∀ c ∈ cs, c = '/') :
    d.find (String.ofList cs.reverse) = .ok ([], .directory) := by
  have hdrop : cs.dropWhile (· == '/') = [] := by
    apply List.dropWhile_eq_nil_iff.2
    intro c hc
    simp [h c hc]
  have hnonempty : String.ofList cs.reverse ≠ "" := by simpa using hne
  have hstart : d.start (String.ofList cs.reverse) = [] := by
    unfold start isAbsolute Text.startsWith
    rw [String.toList_ofList]
    cases hchars : cs.reverse with
    | nil => simp [hne] at hchars
    | cons c rest =>
        have hc : c = '/' := h c (List.mem_reverse.1 (hchars ▸ List.mem_cons_self))
        simp [hc, List.isPrefixOf]
  refine find_eq_ok_iff.2 ⟨?_, rfl⟩
  rw [place_eq_of_ne_empty d hnonempty, hstart]
  -- they lead from the root to itself
  apply foldlM_follow_of_dropWhile rfl
  rw [hdrop]
  rfl

/-- What stands before the last slash of a path that leads somewhere is there. -/
theorem isThere_parent {d : Disk} {path : String} {names : List String}
    (h : d.place path = .ok names) : parent path = "" ∨ d.isThere (parent path) = true := by
  have hpath := ne_empty_of_place h
  rw [place_eq_of_ne_empty d hpath] at h
  rcases parent_cases path with ⟨-, hparent, -⟩ | ⟨cs, hwhole, hcases⟩
  · exact Or.inl hparent
  · right
    rcases hcases with ⟨hne, hparent⟩ | ⟨hall, hparent⟩
    · -- the last name is followed from a directory, and that is what the parent leads to
      have hsegments : segments path = segments (String.ofList cs.reverse) ++ [baseName path] := by
        rw [← segments_of_not_mem (not_mem_baseName path), ← segments_append, ← hwhole]
      have hnonempty : parent path ≠ "" := by
        rw [hparent]
        simpa using hne
      rw [hsegments, foldlM_follow_concat] at h
      rcases h with ⟨between, hbefore, hlast⟩
      refine isThere_iff.2 ⟨between, .directory, find_eq_ok_iff.2 ⟨?_, at?_of_follow hlast⟩⟩
      rw [place_eq_of_ne_empty d hnonempty, start_eq_of_begins d (begins_parent path) hnonempty,
        hparent]
      exact foldlM_follow_dropWhile hbefore
    · have hslashes : ∀ c ∈ '/' :: cs, c = '/' := by
        intro c hc
        rcases List.mem_cons.1 hc with rfl | hc
        · rfl
        · simpa using List.dropWhile_eq_nil_iff.1 hall c hc
      rw [hparent]
      exact isThere_iff.2 ⟨[], .directory, d.find_slashes (List.cons_ne_nil _ _) hslashes⟩

/-- What is above a path that leads somewhere is there. -/
theorem hasAbove_of_place_bare {d : Disk} {path : String} {names : List String}
    (h : d.place (bare path) = .ok names) : d.hasAbove path = true := by
  unfold hasAbove
  rw [above_eq]
  rcases isThere_parent h with hempty | hthere
  · simp [hempty]
  · simp [hthere]

end Disk
end RoleAudit
