import RoleAudit.Proofs.Disk.Way
import RoleAudit.Proofs.Path.Routes
import RoleAudit.SourceFiles

/-!
# Normal forms of paths

The normal form of a path is its own normal form, and it leads wherever the path leads:

- `resolveSegments_cases`: what becomes of one segment;
- `IsResolved`: names that are resolved; `isResolved_resolveSegments`, `resolveSegments_again`:
  resolving gives such names, and keeps them;
- `normalize_normalize`: a normal form stays as it is;
- `Disk.place_normalize`: a path that leads somewhere leads there in normal form;
- `readText?_normalize`: so the same text is read.
-/

namespace RoleAudit

namespace Path

/-! ## Resolving one segment -/

/-- A segment vanishes, at the root if it goes up; or it takes back a name; or it is kept. -/
theorem resolveSegments_cases (rooted : Bool) (done : List String) (s : String) :
    ((s = "" ∨ s = ".") ∧
      ∀ rest, resolveSegments rooted done (s :: rest) = resolveSegments rooted done rest) ∨
    (s = ".." ∧ rooted = true ∧ done = [] ∧
      ∀ rest, resolveSegments rooted done (s :: rest) = resolveSegments rooted done rest) ∨
    (∃ last others, s = ".." ∧ done = last :: others ∧ last ≠ ".." ∧
      ∀ rest, resolveSegments rooted done (s :: rest) = resolveSegments rooted others rest) ∨
    (¬(s = "" ∨ s = ".") ∧ (s = ".." → done = [] ∧ rooted = false ∨ done.head? = some "..") ∧
      ∀ rest,
        resolveSegments rooted done (s :: rest) = resolveSegments rooted (s :: done) rest) := by
  by_cases hplain : s = "" ∨ s = "."
  · exact Or.inl ⟨hplain, fun rest => resolveSegments_skip rooted done rest hplain⟩
  right
  by_cases hup : s = ".."
  · subst hup
    cases done with
    | nil =>
        cases rooted with
        | true => exact Or.inl ⟨rfl, rfl, rfl, fun rest => resolveSegments_up_nil rest⟩
        | false =>
            refine Or.inr (Or.inr ⟨by decide, fun _ => Or.inl ⟨rfl, rfl⟩, fun rest => ?_⟩)
            simp [resolveSegments]
    | cons last others =>
        -- a step up is kept behind a step up that was kept
        by_cases hlast : last = ".."
        · subst hlast
          refine Or.inr (Or.inr ⟨by decide, fun _ => Or.inr rfl, fun rest => ?_⟩)
          simp [resolveSegments]
        · refine Or.inr (Or.inl ⟨last, others, rfl, rfl, hlast, fun rest => ?_⟩)
          exact resolveSegments_up_cons rooted others rest hlast
  · refine Or.inr (Or.inr ⟨hplain, fun h => absurd h hup, fun rest => ?_⟩)
    exact resolveSegments_name rooted done rest hplain hup

/-! ## Names that are resolved -/

/-- Names that are resolved, the last one first; a double dot has only double dots before it. -/
inductive IsResolved (rooted : Bool) : List String → Prop where
  | nil : IsResolved rooted []
  | push {s : String} {done : List String} (hplain : ¬(s = "" ∨ s = "."))
      (hup : s = ".." → done = [] ∧ rooted = false ∨ done.head? = some "..")
      (h : IsResolved rooted done) : IsResolved rooted (s :: done)

/-- Resolving gives names that are resolved. -/
theorem isResolved_resolveSegments {rooted : Bool} {done : List String} (segs : List String)
    (h : IsResolved rooted done) :
    IsResolved rooted (resolveSegments rooted done segs).reverse := by
  induction segs generalizing done with
  | nil => simpa [resolveSegments] using h
  | cons s rest ih =>
      rcases resolveSegments_cases rooted done s with ⟨-, hstep⟩ | ⟨-, -, -, hstep⟩ |
        ⟨last, others, -, rfl, -, hstep⟩ | ⟨hplain, hup, hstep⟩
      · rw [hstep]
        exact ih h
      · rw [hstep]
        exact ih h
      · rw [hstep]
        cases h with
        | push _ _ hothers => exact ih hothers
      · rw [hstep]
        exact ih (.push hplain hup h)

/-- What is resolved is taken up as it is. -/
theorem resolveSegments_of_isResolved {rooted : Bool} {done : List String}
    (h : IsResolved rooted done) (rest : List String) :
    resolveSegments rooted [] (done.reverse ++ rest) = resolveSegments rooted done rest := by
  induction h generalizing rest with
  | nil => rfl
  | @push s done hplain hup h ih =>
      rw [List.reverse_cons, List.append_assoc, List.singleton_append, ih]
      rcases resolveSegments_cases rooted done s with ⟨hnot, -⟩ | ⟨rfl, hrooted, rfl, -⟩ |
        ⟨last, others, rfl, rfl, hlast, -⟩ | ⟨-, -, hstep⟩
      · exact absurd hnot hplain
      · -- at the root no double dot is kept
        rcases hup rfl with ⟨-, hfree⟩ | hhead
        · rw [hrooted] at hfree
          cases hfree
        · cases hhead
      · rcases hup rfl with ⟨hnil, -⟩ | hhead
        · cases hnil
        · exact absurd (Option.some.inj hhead) hlast
      · exact hstep rest

/-- Resolving twice is resolving once. -/
theorem resolveSegments_again (rooted : Bool) (segs : List String) :
    resolveSegments rooted [] (resolveSegments rooted [] segs) =
      resolveSegments rooted [] segs := by
  have hresolved := isResolved_resolveSegments segs (.nil : IsResolved rooted [])
  have hagain := resolveSegments_of_isResolved hresolved []
  rw [List.reverse_reverse, List.append_nil] at hagain
  rw [hagain, resolveSegments, List.reverse_reverse]

/-! ## The normal form -/

/-- The names that the normal form of a path is made of. -/
def resolved (path : String) : List String :=
  resolveSegments (leadingSlashes path != 0) [] (segments path)

theorem mem_resolved {path n : String} (h : n ∈ resolved path) :
    n ≠ "" ∧ n ≠ "." ∧ '/' ∉ n.toList :=
  resolved_segments _ path n h

theorem segments_joinWith_resolved {path : String} (h : resolved path ≠ []) :
    segments (Text.joinWith "/" (resolved path)) = resolved path :=
  segments_joinWith h fun _ hn => (mem_resolved hn).2.2

/-- The text of the names does not begin with a slash. -/
theorem isAbsolute_joinWith_resolved (path : String) :
    isAbsolute (Text.joinWith "/" (resolved path)) = false := by
  by_cases hnone : resolved path = []
  · rw [hnone]
    decide
  · rw [Bool.eq_false_iff]
    intro habsolute
    rcases exists_eq_slash_append habsolute with ⟨rest, hrest⟩
    -- a slash at the start would leave an empty segment before it
    have hsegments := segments_joinWith_resolved hnone
    rw [hrest, segments_append] at hsegments
    have hempty : "" ∈ resolved path := hsegments ▸ List.mem_append_left _ (by decide)
    exact (mem_resolved hempty).1 rfl

/-- Some slashes, and a text that does not begin with one. -/
def slashesBefore (k : Nat) (body : String) : String :=
  String.ofList (List.replicate k '/') ++ body

/-- A normal form is a dot, or slashes before the names of the path. -/
theorem normalize_cases (path : String) :
    (leadingSlashes path = 0 ∧ resolved path = [] ∧ normalize path = ".") ∨
      ¬(leadingSlashes path = 0 ∧ resolved path = []) ∧
        normalize path =
          slashesBefore (leadingSlashes path) (Text.joinWith "/" (resolved path)) := by
  have hform : normalize path =
      if (slashesBefore (leadingSlashes path) (Text.joinWith "/" (resolved path))).isEmpty then "."
      else slashesBefore (leadingSlashes path) (Text.joinWith "/" (resolved path)) := rfl
  by_cases hnone : leadingSlashes path = 0 ∧ resolved path = []
  · refine Or.inl ⟨hnone.1, hnone.2, ?_⟩
    rw [hform, hnone.1, hnone.2]
    rfl
  · refine Or.inr ⟨hnone, ?_⟩
    have hfull : (slashesBefore (leadingSlashes path)
        (Text.joinWith "/" (resolved path))).isEmpty ≠ true := by
      -- names that are joined are empty only if there are none
      intro hempty
      apply hnone
      have hchars := congrArg String.toList (String.isEmpty_iff.1 hempty)
      simp only [slashesBefore, String.toList_append, String.toList_ofList] at hchars
      have hparts := List.append_eq_nil_iff.1 hchars
      refine ⟨by simpa using hparts.1, ?_⟩
      by_contra hsome
      have hsegments := segments_joinWith_resolved hsome
      rw [String.toList_eq_nil_iff.1 hparts.2] at hsegments
      have hempty : "" ∈ resolved path := hsegments ▸ by decide
      exact (mem_resolved hempty).1 rfl
    rw [hform, if_neg hfull]

theorem leadingSlashes_le (path : String) : leadingSlashes path ≤ 2 := by
  unfold leadingSlashes
  repeat' split
  all_goals omega

theorem leadingSlashes_slashesBefore {k : Nat} {body : String} (hk : k ≤ 2)
    (hbody : isAbsolute body = false) : leadingSlashes (slashesBefore k body) = k := by
  have hfront : ['/'].isPrefixOf body.toList = false := hbody
  have hlonger : ∀ rest, ('/' :: rest).isPrefixOf body.toList = false := by
    intro rest
    cases hchars : body.toList with
    | nil => rfl
    | cons c cs =>
        rw [hchars] at hfront
        simp only [List.isPrefixOf, Bool.and_true] at hfront
        simp [List.isPrefixOf, hfront]
  have hcases : k = 0 ∨ k = 1 ∨ k = 2 := by omega
  rcases hcases with rfl | rfl | rfl <;>
    simp [leadingSlashes, slashesBefore, Text.startsWith, List.isPrefixOf, List.replicate, hlonger]

theorem segments_slashesBefore (k : Nat) (body : String) :
    segments (slashesBefore k body) = List.replicate k "" ++ segments body := by
  induction k with
  | zero => simp [slashesBefore]
  | succ k ih =>
      have hsplit : slashesBefore (k + 1) body = "" ++ "/" ++ slashesBefore k body := by
        rw [← String.toList_inj]
        simp [slashesBefore, List.replicate_succ]
      rw [hsplit, segments_append, ih, List.replicate_succ]
      rfl

theorem resolveSegments_replicate (rooted : Bool) (done rest : List String) (k : Nat) :
    resolveSegments rooted done (List.replicate k "" ++ rest) =
      resolveSegments rooted done rest := by
  induction k with
  | zero => rfl
  | succ k ih =>
      rw [List.replicate_succ, List.cons_append,
        resolveSegments_skip rooted done _ (Or.inl rfl), ih]

theorem join_ne_empty (base : String) {way : String} (h : way ≠ "") : join base way ≠ "" := by
  unfold join
  split
  · exact h
  · split <;> simp [h]

/-- The segments of a relative path come after some that only depend on its base. -/
theorem exists_segments_join (base : String) :
    ∃ front, ∀ way, isAbsolute way = false → segments (join base way) = front ++ segments way := by
  by_cases hempty : base = ""
  · refine ⟨[], fun way hway => ?_⟩
    simp [join, hway, hempty]
  · by_cases hslash : Text.endsWith base "/" = true
    · rcases List.isSuffixOf_iff_suffix.1 hslash with ⟨before, hbefore⟩
      refine ⟨segments (String.ofList before), fun way hway => ?_⟩
      -- the slash at the end of the base stands for the one that is not put in
      have hwhole : join base way = String.ofList before ++ "/" ++ way := by
        rw [← String.toList_inj]
        simp [join, hway, hslash, ← hbefore]
      rw [hwhole, segments_append]
    · refine ⟨segments base, fun way hway => ?_⟩
      have hwhole : join base way = base ++ "/" ++ way := by
        simp [join, hway, hslash, hempty]
      rw [hwhole, segments_append]

/-- The normal form of a path is in normal form. -/
theorem normalize_normalize (path : String) : normalize (normalize path) = normalize path := by
  rcases normalize_cases path with ⟨-, -, hdot⟩ | ⟨hsome, hform⟩
  · rw [hdot]
    decide
  -- the slashes of the normal form are those of the path, and so are its names
  have hslashes : leadingSlashes (normalize path) = leadingSlashes path := by
    rw [hform]
    exact leadingSlashes_slashesBefore (leadingSlashes_le path) (isAbsolute_joinWith_resolved path)
  have hnames : resolved (normalize path) = resolved path := by
    have hbody : ∀ rooted, rooted = (leadingSlashes path != 0) →
        resolveSegments rooted [] (segments (Text.joinWith "/" (resolved path))) =
          resolved path := by
      rintro rooted rfl
      by_cases hnone : resolved path = []
      · rw [hnone]
        exact resolveSegments_skip _ _ [] (Or.inl rfl)
      · rw [segments_joinWith_resolved hnone]
        exact resolveSegments_again _ (segments path)
    calc
      resolved (normalize path) =
          resolveSegments (leadingSlashes path != 0) [] (segments (normalize path)) := by
        rw [resolved, hslashes]
      _ = resolveSegments (leadingSlashes path != 0) []
          (segments (Text.joinWith "/" (resolved path))) := by
        rw [hform, segments_slashesBefore, resolveSegments_replicate]
      _ = resolved path := hbody _ rfl
  rcases normalize_cases (normalize path) with ⟨hzero, hnone, -⟩ | ⟨-, hform'⟩
  · exact absurd ⟨hslashes ▸ hzero, hnames ▸ hnone⟩ hsome
  · rw [hform', hslashes, hnames, ← hform]

/-- A normal form is absolute exactly if the path is. -/
theorem isAbsolute_normalize (path : String) : isAbsolute (normalize path) = isAbsolute path := by
  cases habsolute : isAbsolute path with
  | true => exact (normalize_of_isAbsolute habsolute).1
  | false => exact (normalize_of_relative habsolute).1

theorem normalize_ne_empty (path : String) : normalize path ≠ "" := by
  intro hempty
  have hagain := normalize_normalize path
  rw [hempty] at hagain
  exact absurd hagain (by decide)

end Path

/-! ## Following a normal form -/

namespace Disk

open RoleAudit.Path

variable {d : Disk}

theorem follow_plain_iff {here there : List String} {s : String} (hplain : s = "" ∨ s = ".") :
    d.follow here s = .ok there ↔ here = there ∧ d.at? here = some .directory := by
  rcases hplain with rfl | rfl
  · exact follow_empty_iff
  · have hsame : d.follow here "." = d.follow here "" := rfl
    rw [hsame]
    exact follow_empty_iff

theorem follow_up {here there : List String} (h : d.follow here ".." = .ok there) :
    there = here.dropLast := by
  unfold follow at h
  rw [at?_of_follow h] at h
  exact (Except.ok.inj h).symm

theorem follow_name {here there : List String} {s : String} (hplain : ¬(s = "" ∨ s = "."))
    (hup : s ≠ "..") (h : d.follow here s = .ok there) : there = here ++ [s] := by
  unfold follow at h
  rw [at?_of_follow h] at h
  dsimp only at h
  rw [if_neg (by simpa using hplain), if_neg (by simpa using hup)] at h
  split at h
  · cases h
  · exact (Except.ok.inj h).symm

/-- What comes later on a way is followed from where the first part leads. -/
theorem foldlM_follow_append {here there front back : List String} :
    (front ++ back).foldlM d.follow here = .ok there ↔
      ∃ mid, front.foldlM d.follow here = .ok mid ∧ back.foldlM d.follow mid = .ok there := by
  rw [List.foldlM_append]
  cases front.foldlM d.follow here with
  | error cause => simp [bind, Except.bind]
  | ok mid => simp [bind, Except.bind]

/-- What the segments of a path lead to, they lead to when they are resolved. -/
theorem foldlM_follow_resolveSegments {rooted : Bool} {here mid there done segs : List String}
    (hroot : rooted = true → here = []) (hresolved : IsResolved rooted done)
    (hdone : done.reverse.foldlM d.follow here = .ok mid)
    (h : segs.foldlM d.follow mid = .ok there) :
    (resolveSegments rooted done segs).foldlM d.follow here = .ok there := by
  -- the induction carries that what is done leads to where the next segment starts
  induction segs generalizing done mid with
  | nil =>
      cases h
      exact hdone
  | cons s rest ih =>
      rcases foldlM_follow_cons.1 h with ⟨next, hnext, hlater⟩
      rcases resolveSegments_cases rooted done s with ⟨hplain, hstep⟩ | ⟨rfl, hrooted, rfl, hstep⟩ |
        ⟨last, others, rfl, rfl, hlast, hstep⟩ | ⟨hplain, hup, hstep⟩
      · obtain ⟨rfl, -⟩ := (follow_plain_iff hplain).1 hnext
        rw [hstep]
        exact ih hresolved hdone hlater
      · -- above the root is the root
        cases hdone
        have hstays : next = here := by
          rw [follow_up hnext, hroot hrooted]
          rfl
        subst hstays
        rw [hstep]
        exact ih hresolved rfl hlater
      · -- the name that is taken back was followed from where the others lead
        cases hresolved with
        | push hplain _ hothers =>
            rw [List.reverse_cons] at hdone
            rcases foldlM_follow_concat.1 hdone with ⟨between, hbefore, hfollow⟩
            have hback : next = between := by
              rw [follow_up hnext, follow_name hplain hlast hfollow, List.dropLast_concat]
            subst hback
            rw [hstep]
            exact ih hothers hbefore hlater
      · rw [hstep]
        refine ih (.push hplain hup hresolved) ?_ hlater
        rw [List.reverse_cons]
        exact foldlM_follow_concat.2 ⟨mid, hdone, hnext⟩

theorem foldlM_follow_replicate (k : Nat) (rest : List String) :
    (List.replicate k "" ++ rest).foldlM d.follow [] = rest.foldlM d.follow [] := by
  induction k with
  | zero => rfl
  | succ k ih =>
      rw [List.replicate_succ, List.cons_append, List.foldlM_cons, ← ih]
      rfl

/-- Where the segments of a path lead from somewhere, those of its normal form lead. -/
theorem foldlM_follow_normalize {path : String} {here there : List String}
    (hroot : isAbsolute path = true → here = [])
    (h : (segments path).foldlM d.follow here = .ok there) :
    (segments (normalize path)).foldlM d.follow here = .ok there := by
  have hslashes : leadingSlashes path ≠ 0 → here = [] := by
    intro hne
    apply hroot
    by_contra hnot
    exact hne ((leadingSlashes_eq_zero_iff path).2 (Bool.eq_false_iff.2 hnot))
  have hresolved : (resolved path).foldlM d.follow here = .ok there :=
    foldlM_follow_resolveSegments (fun hne => hslashes (by simpa using hne)) .nil rfl h
  -- a path has a segment, so it starts in a directory
  have hstart : d.at? here = some .directory := by
    cases hsegments : segments path with
    | nil => exact absurd hsegments (by simp [segments, Text.splitAt, Text.pieces_ne_nil])
    | cons s rest =>
        rw [hsegments] at h
        rcases foldlM_follow_cons.1 h with ⟨next, hnext, -⟩
        exact at?_of_follow hnext
  have hstays : ∀ {s}, s = "" ∨ s = "." → [s].foldlM d.follow here = .ok here := by
    intro s hplain
    exact foldlM_follow_cons.2 ⟨here, (follow_plain_iff hplain).2 ⟨rfl, hstart⟩, rfl⟩
  rcases normalize_cases path with ⟨-, hnone, hdot⟩ | ⟨-, hform⟩
  · rw [hnone] at hresolved
    cases hresolved
    rw [hdot, segments_of_not_mem (by decide)]
    exact hstays (Or.inr rfl)
  · have hbody : (segments (Text.joinWith "/" (resolved path))).foldlM d.follow here =
        .ok there := by
      by_cases hnone : resolved path = []
      · rw [hnone] at hresolved ⊢
        cases hresolved
        rw [Text.joinWith, segments_of_not_mem (by decide)]
        exact hstays (Or.inl rfl)
      · rw [segments_joinWith_resolved hnone]
        exact hresolved
    rw [hform, segments_slashesBefore]
    by_cases hzero : leadingSlashes path = 0
    · rw [hzero, List.replicate_zero, List.nil_append]
      exact hbody
    · rw [hslashes hzero] at hbody ⊢
      rw [foldlM_follow_replicate]
      exact hbody

theorem start_normalize (path : String) : d.start (normalize path) = d.start path := by
  unfold start
  rw [isAbsolute_normalize]

/-- A path that leads somewhere leads there in normal form. -/
theorem place_normalize {path : String} {names : List String} (h : d.place path = .ok names) :
    d.place (normalize path) = .ok names := by
  have hroot : isAbsolute path = true → d.start path = [] := by
    intro habsolute
    unfold start
    rw [if_pos habsolute]
  rw [place_eq_of_ne_empty d (ne_empty_of_place h)] at h
  rw [place_eq_of_ne_empty d (normalize_ne_empty path), start_normalize]
  exact foldlM_follow_normalize hroot h

/-- What a path below a base leads to, its normal form below the base leads to. -/
theorem place_join_normalize {base way : String} {names : List String}
    (hway : isAbsolute way = false) (h : d.place (join base way) = .ok names) :
    d.place (join base (normalize way)) = .ok names := by
  rcases exists_segments_join base with ⟨front, hfront⟩
  have hnormal : isAbsolute (normalize way) = false := by rw [isAbsolute_normalize, hway]
  have hstart : d.start (join base (normalize way)) = d.start (join base way) := by
    unfold start
    rw [isAbsolute_join hnormal, isAbsolute_join hway]
  rw [place_eq_of_ne_empty d (ne_empty_of_place h), hfront way hway] at h
  rw [place_eq_of_ne_empty d (join_ne_empty base (normalize_ne_empty way)), hstart,
    hfront _ hnormal]
  rcases foldlM_follow_append.1 h with ⟨mid, hbase, hbelow⟩
  have hroot : isAbsolute way = true → mid = [] := by
    intro habsolute
    rw [hway] at habsolute
    cases habsolute
  exact foldlM_follow_append.2 ⟨mid, hbase, foldlM_follow_normalize hroot hbelow⟩

/-- What a path leads to, its normal form leads to. -/
theorem find_normalize {path : String} {names : List String} {e : DiskEntry}
    (h : d.find path = .ok (names, e)) : d.find (normalize path) = .ok (names, e) := by
  rcases find_eq_ok_iff.1 h with ⟨hplace, hat⟩
  exact find_eq_ok_iff.2 ⟨place_normalize hplace, hat⟩

theorem find_join_normalize {base way : String} {names : List String} {e : DiskEntry}
    (hway : isAbsolute way = false) (h : d.find (join base way) = .ok (names, e)) :
    d.find (join base (normalize way)) = .ok (names, e) := by
  rcases find_eq_ok_iff.1 h with ⟨hplace, hat⟩
  exact find_eq_ok_iff.2 ⟨place_join_normalize hway hplace, hat⟩

end Disk

/-- The text of a file is also read at the normal form of its path. -/
theorem readText?_normalize {d : Disk} {project path text : String}
    (h : readText? d project path = some text) :
    readText? d project (Path.normalize path) = some text := by
  have hfind : ∀ found, d.find (inProject project path) = .ok found →
      d.find (inProject project (Path.normalize path)) = .ok found := by
    rintro ⟨names, e⟩ hfound
    unfold inProject at hfound ⊢
    rw [Path.isAbsolute_normalize]
    split
    · -- an absolute path does not start in the project
      rename_i habsolute
      rw [if_pos habsolute] at hfound
      exact Disk.find_normalize hfound
    · rename_i hrelative
      rw [if_neg hrelative] at hfound
      exact Disk.find_join_normalize (Bool.eq_false_iff.2 hrelative) hfound
  unfold readText? at h ⊢
  generalize d.find (inProject project path) = reached at h hfind
  cases reached with
  | error cause => cases h
  | ok found =>
      rw [hfind found rfl]
      exact h

end RoleAudit
