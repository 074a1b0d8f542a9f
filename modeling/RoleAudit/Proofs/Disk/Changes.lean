import RoleAudit.Proofs.Path.Segments

/-!
# What operations change on a disk

A path leads to the names that it is written for, if it leads anywhere. So it can be told from the
path alone where an operation changes a disk:

- `Disk.namesAt`: the names that a path is written for;
- `Disk.LeadsThrough`: the names that it leads through on the way;
- `Disk.namesAt_of_place`: a path that leads somewhere leads to its names;
- `Disk.Confined`: outside some names nothing changes, but for new directories on the way;
- `Disk.Grown`: nothing changes but for new directories;
- `Disk.grown_makePathFrom`: which directories a path makes;
- `Disk.confined_makePath`, `Disk.confined_write`, `Disk.confined_removeDirectory`: how far each
  operation reaches.
-/

namespace RoleAudit
namespace Disk

open RoleAudit.Path

/-! ## Where paths lead -/

/-- The workplace is a list of names. -/
def IsPlaced (d : Disk) : Prop :=
  ∀ n ∈ d.workplace, IsName n

/-- The names that a path is written for. -/
def namesAt (d : Disk) (path : String) : List String :=
  resolveSegments true (d.start path).reverse (parts path)

/-- The names that a path leads through on its way. -/
def LeadsThrough (d : Disk) (path : String) (names : List String) : Prop :=
  ∃ firsts, firsts <+: parts path ∧
    names = resolveSegments true (d.start path).reverse firsts

theorem leadsThrough_namesAt (d : Disk) (path : String) : d.LeadsThrough path (d.namesAt path) :=
  ⟨parts path, List.prefix_refl _, rfl⟩

theorem start_congr {d d' : Disk} (h : d'.workplace = d.workplace) (path : String) :
    d'.start path = d.start path := by
  unfold start
  rw [h]

theorem namesAt_congr {d d' : Disk} (h : d'.workplace = d.workplace) (path : String) :
    d'.namesAt path = d.namesAt path := by
  unfold namesAt
  rw [start_congr h]

theorem leadsThrough_congr {d d' : Disk} (h : d'.workplace = d.workplace) (path : String)
    (names : List String) : d'.LeadsThrough path names ↔ d.LeadsThrough path names := by
  unfold LeadsThrough
  rw [start_congr h]

theorem isPlaced_congr {d d' : Disk} (h : d'.workplace = d.workplace) (hd : d.IsPlaced) :
    d'.IsPlaced := by
  unfold IsPlaced
  rw [h]
  exact hd

theorem absolute_congr {d d' : Disk} (h : d'.workplace = d.workplace) (path : String) :
    d'.absolute path = d.absolute path := by
  unfold absolute
  rw [h]

theorem start_eq_of_begins (d : Disk) {left path : String} (h : Begins left path)
    (hne : left ≠ "") : d.start left = d.start path := by
  unfold start
  rw [h.isAbsolute_eq hne]

/-- What the beginning of a path leads through, the path does. -/
theorem LeadsThrough.of_begins {d : Disk} {left path : String} {names : List String}
    (h : d.LeadsThrough left names) (hbegins : Begins left path) (hne : left ≠ "") :
    d.LeadsThrough path names := by
  rcases h with ⟨firsts, hfirsts, hnames⟩
  rw [d.start_eq_of_begins hbegins hne] at hnames
  exact ⟨firsts, hfirsts.trans hbegins.parts, hnames⟩

theorem isName_start {d : Disk} (h : d.IsPlaced) (path : String) : ∀ n ∈ d.start path, IsName n := by
  unfold start
  split
  · exact fun n hn => absurd hn List.not_mem_nil
  · exact h

/-- The absolute form of a path has the names that the path is written for. -/
theorem absolute_eq {d : Disk} (h : d.IsPlaced) (path : String) :
    d.absolute path = fromRoot (d.namesAt path) := by
  unfold absolute Path.absolute namesAt start
  cases habsolute : isAbsolute path with
  | true => rw [join_of_isAbsolute _ habsolute, if_pos rfl, names_eq_parts, List.reverse_nil]
  | false => rw [names_join habsolute, if_neg Bool.false_ne_true, names_fromRoot h]

theorem isName_namesAt {d : Disk} (h : d.IsPlaced) (path : String) :
    ∀ n ∈ d.namesAt path, IsName n := by
  refine isName_resolveSegments (fun n hn => ?_) fun s hs => ?_
  · exact isName_start h path n (List.mem_reverse.1 hn)
  · exact not_mem_of_mem_segments (List.mem_filter.1 hs).1

/-- A path through names from the root is written for them. -/
theorem namesAt_fromRoot (d : Disk) {names : List String} (h : ∀ n ∈ names, IsName n) :
    d.namesAt (fromRoot names) = names := by
  unfold namesAt start
  rw [if_pos (isAbsolute_fromRoot names), parts_fromRoot h, List.reverse_nil,
    resolveSegments_of_isName true [] h]
  rfl

/-- A path from the root leads through what begins its parts, if these are names. -/
theorem prefix_of_leadsThrough {d : Disk} {path : String} {through : List String}
    (habsolute : isAbsolute path = true) (h : ∀ n ∈ parts path, IsName n)
    (hthrough : d.LeadsThrough path through) : through <+: parts path := by
  rcases hthrough with ⟨firsts, hfirsts, rfl⟩
  unfold start
  rw [if_pos habsolute, List.reverse_nil,
    resolveSegments_of_isName true [] fun n hn => h n (hfirsts.subset hn)]
  exact hfirsts

/-- A path through names from the root leads through what begins them. -/
theorem prefix_of_leadsThrough_fromRoot {d : Disk} {names through : List String}
    (h : ∀ n ∈ names, IsName n) (hthrough : d.LeadsThrough (fromRoot names) through) :
    through <+: names := by
  have hparts := parts_fromRoot h
  rw [← hparts]
  exact prefix_of_leadsThrough (isAbsolute_fromRoot names) (by rwa [hparts]) hthrough

/-! ## Following -/

/-- Following one name is resolving it, as long as no name on the way is a double dot. -/
theorem follow_eq {d : Disk} {here there : List String} {s : String} (hhere : ∀ n ∈ here, n ≠ "..")
    (h : d.follow here s = .ok there) :
    (∀ n ∈ there, n ≠ "..") ∧
      ∀ rest, resolveSegments true here.reverse (s :: rest) =
        resolveSegments true there.reverse rest := by
  unfold follow at h
  split at h
  · cases h
  · cases h
  · by_cases hplain : s = "" ∨ s = "."
    · rw [if_pos (by simpa using hplain)] at h
      cases h
      exact ⟨hhere, fun rest => resolveSegments_skip true _ rest hplain⟩
    · rw [if_neg (by simpa using hplain)] at h
      by_cases hup : s = ".."
      · rw [if_pos (by simpa using hup)] at h
        cases h
        subst hup
        refine ⟨fun n hn => hhere n (List.dropLast_subset here hn), fun rest => ?_⟩
        -- above the root is the root, as it is for the resolved names
        rcases List.eq_nil_or_concat here with rfl | ⟨before, last, rfl⟩
        · exact resolveSegments_up_nil rest
        · have hlast : last ≠ ".." := hhere last (by simp)
          simp [resolveSegments_up_cons true _ rest hlast]
      · rw [if_neg (by simpa using hup)] at h
        split at h
        · cases h
        · cases h
          refine ⟨fun n hn => ?_, fun rest => ?_⟩
          · rcases List.mem_append.1 hn with hn | hn
            · exact hhere n hn
            · exact (List.mem_singleton.1 hn) ▸ hup
          · rw [resolveSegments_name true _ rest hplain hup, List.reverse_append]
            rfl

theorem foldlM_follow_cons {d : Disk} {here there rest : List String} {s : String} :
    (s :: rest).foldlM d.follow here = .ok there ↔
      ∃ next, d.follow here s = .ok next ∧ rest.foldlM d.follow next = .ok there := by
  rw [List.foldlM_cons]
  cases d.follow here s with
  | error cause => simp [bind, Except.bind]
  | ok next => simp [bind, Except.bind]

theorem resolveSegments_of_foldlM {d : Disk} {here there segs : List String}
    (hhere : ∀ n ∈ here, n ≠ "..") (h : segs.foldlM d.follow here = .ok there) :
    there = resolveSegments true here.reverse segs := by
  -- on the way no double dot is kept, or the next one could not take back a name
  induction segs generalizing here with
  | nil =>
      cases h
      simp [resolveSegments]
  | cons s rest ih =>
      rcases foldlM_follow_cons.1 h with ⟨next, hnext, hlater⟩
      rcases follow_eq hhere hnext with ⟨hclean, hresolve⟩
      rw [hresolve]
      exact ih hclean hlater

/-- A path that leads somewhere leads to its names. -/
theorem namesAt_of_place {d : Disk} (hd : d.IsPlaced) {path : String} {names : List String}
    (h : d.place path = .ok names) : names = d.namesAt path := by
  unfold place at h
  split at h
  · cases h
  · have hstart : ∀ n ∈ d.start path, n ≠ ".." := fun n hn => (isName_start hd path n hn).2.2.1
    rw [resolveSegments_of_foldlM hstart h]
    exact (resolveSegments_filter true _ (segments path)).symm

theorem find_eq_ok_iff {d : Disk} {path : String} {names : List String} {e : DiskEntry} :
    d.find path = .ok (names, e) ↔ d.place path = .ok names ∧ d.at? names = some e := by
  unfold find
  cases d.place path with
  | error cause => simp [bind, Except.bind]
  | ok found =>
      constructor
      · intro h
        cases hat : d.at? found with
        | none => simp [bind, Except.bind, hat, throw, throwThe, MonadExceptOf.throw] at h
        | some there =>
            simp [bind, Except.bind, hat, pure, Except.pure] at h
            rcases h with ⟨rfl, rfl⟩
            exact ⟨rfl, hat⟩
      · rintro ⟨⟨⟩, hat⟩
        simp [bind, Except.bind, hat, pure, Except.pure]

theorem namesAt_of_find {d : Disk} (hd : d.IsPlaced) {path : String} {names : List String}
    {e : DiskEntry} (h : d.find path = .ok (names, e)) : names = d.namesAt path :=
  namesAt_of_place hd (find_eq_ok_iff.1 h).1

/-! ## What is there -/

theorem lookup_filter_names (keeps : List String → Bool) (names : List String)
    (entries : List (List String × DiskEntry)) :
    (entries.filter fun entry => keeps entry.1).lookup names =
      if keeps names then entries.lookup names else none := by
  induction entries with
  | nil => simp
  | cons entry rest ih =>
      rcases entry with ⟨n, e⟩
      rw [List.filter_cons]
      by_cases hn : names = n
      · subst hn
        cases hkeeps : keeps names <;> simp [hkeeps, ih]
      · have hbeq : (names == n) = false := beq_false_of_ne hn
        cases hkeeps : keeps n <;> simp [List.lookup_cons, hbeq, ih]

theorem at?_put_of_ne (d : Disk) (e : DiskEntry) {names other : List String} (h : other ≠ names) :
    (d.put names e).at? other = d.at? other := by
  have hbeq : (other == names) = false := beq_false_of_ne h
  unfold put at?
  dsimp only
  rw [List.lookup_append, lookup_filter_names (fun n => n != names)]
  simp [hbeq, h, List.lookup_cons]

theorem at?_put_self (d : Disk) (e : DiskEntry) {names : List String} (h : names ≠ []) :
    (d.put names e).at? names = some e := by
  unfold put at?
  dsimp only
  rw [List.lookup_append, lookup_filter_names (fun n => n != names)]
  simp [h]

theorem at?_emptied (d : Disk) {names other : List String} (h : ¬ names <+: other) :
    (d.emptied names).at? other = d.at? other := by
  have hfront : names.isPrefixOf other = false :=
    Bool.eq_false_iff.2 fun hfront => h (List.isPrefixOf_iff_prefix.1 hfront)
  unfold emptied at?
  dsimp only
  rw [lookup_filter_names fun n => n == names || !names.isPrefixOf n]
  simp [hfront]

theorem at?_removeTree (d : Disk) {names other : List String} (h : ¬ names <+: other) :
    (d.removeTree names).at? other = d.at? other := by
  have hfront : names.isPrefixOf other = false :=
    Bool.eq_false_iff.2 fun hfront => h (List.isPrefixOf_iff_prefix.1 hfront)
  unfold removeTree at?
  dsimp only
  rw [lookup_filter_names fun n => !names.isPrefixOf n]
  simp [hfront]

/-! ## How far a change reaches -/

/-- Outside some names nothing changes from one disk to another, but for new directories on a way. -/
structure Confined (inside way : List String → Prop) (d d' : Disk) : Prop where
  workplace : d'.workplace = d.workplace
  outside : ∀ names, ¬ inside names → d'.at? names = d.at? names ∨
    (way names ∧ d.at? names = none ∧ d'.at? names = some .directory)

namespace Confined

variable {inside way : List String → Prop} {d d' d'' : Disk}

theorem refl (d : Disk) : Confined inside way d d :=
  ⟨rfl, fun _ _ => Or.inl rfl⟩

/-- Two changes reach no further than each of them. -/
theorem trans (h : Confined inside way d d') (h' : Confined inside way d' d'') :
    Confined inside way d d'' := by
  refine ⟨h'.workplace.trans h.workplace, fun names hnames => ?_⟩
  rcases h.outside names hnames with hsame | ⟨hway, habsent, hthere⟩
  · rcases h'.outside names hnames with hsame' | ⟨hway', habsent', hthere'⟩
    · exact Or.inl (hsame'.trans hsame)
    · exact Or.inr ⟨hway', hsame ▸ habsent', hthere'⟩
  · -- a directory that the first change made is there for the second one
    rcases h'.outside names hnames with hsame' | ⟨-, habsent', -⟩
    · exact Or.inr ⟨hway, habsent, hsame'.trans hthere⟩
    · rw [hthere] at habsent'
      cases habsent'

/-- A new directory on the way may count as inside. -/
theorem mono {inside' way' : List String → Prop} (h : Confined inside way d d')
    (hinside : ∀ names, inside names → inside' names)
    (hway : ∀ names, way names → inside' names ∨ way' names) : Confined inside' way' d d' := by
  refine ⟨h.workplace, fun names hnames => ?_⟩
  rcases h.outside names fun hin => hnames (hinside names hin) with hsame | ⟨hon, habsent, hthere⟩
  · exact Or.inl hsame
  · exact Or.inr ⟨(hway names hon).resolve_left hnames, habsent, hthere⟩

theorem put {names : List String} (e : DiskEntry) (h : inside names) :
    Confined inside way d (d.put names e) := by
  refine ⟨rfl, fun other hother => Or.inl (at?_put_of_ne d e ?_)⟩
  exact fun heq => hother (heq ▸ h)

theorem emptied {names : List String} (h : ∀ other, names <+: other → inside other) :
    Confined inside way d (d.emptied names) :=
  ⟨rfl, fun other hother => Or.inl (at?_emptied d fun hfront => hother (h other hfront))⟩

theorem removeTree {names : List String} (h : ∀ other, names <+: other → inside other) :
    Confined inside way d (d.removeTree names) :=
  ⟨rfl, fun other hother => Or.inl (at?_removeTree d fun hfront => hother (h other hfront))⟩

end Confined

/-! ## New directories -/

theorem lookup_directories (new : List (List String)) (names : List String) :
    (new.map fun n => (n, DiskEntry.directory)).lookup names =
      if names ∈ new then some .directory else none := by
  induction new with
  | nil => rfl
  | cons n rest ih =>
      by_cases hn : names = n
      · simp [hn]
      · have hbeq : (names == n) = false := beq_false_of_ne hn
        simp [List.lookup_cons, hbeq, hn, ih]

/-- One disk is another one with new directories at its end. -/
structure Grown (made : List String → Prop) (d d' : Disk) : Prop where
  workplace : d'.workplace = d.workplace
  entries : ∃ new : List (List String),
    d'.entries = d.entries ++ new.map (fun n => (n, DiskEntry.directory)) ∧
      ∀ n ∈ new, made n ∧ d.at? n = none

namespace Grown

variable {made : List String → Prop} {d d' d'' : Disk}

theorem refl (d : Disk) : Grown made d d :=
  ⟨rfl, [], by simp, by simp⟩

/-- What is on a disk stays when it grows. -/
theorem at?_eq (h : Grown made d d') {names : List String} {e : DiskEntry}
    (hthere : d.at? names = some e) : d'.at? names = some e := by
  rcases h.entries with ⟨new, hentries, -⟩
  unfold at? at hthere ⊢
  by_cases hroot : names.isEmpty = true
  · rwa [if_pos hroot] at hthere ⊢
  · rw [if_neg hroot] at hthere ⊢
    rw [hentries, List.lookup_append, hthere]
    rfl

theorem trans (h : Grown made d d') (h' : Grown made d' d'') : Grown made d d'' := by
  rcases h.entries with ⟨new, hentries, hnew⟩
  rcases h'.entries with ⟨new', hentries', hnew'⟩
  refine ⟨h'.workplace.trans h.workplace, new ++ new', ?_, ?_⟩
  · rw [hentries', hentries, List.map_append, List.append_assoc]
  · intro n hn
    rcases List.mem_append.1 hn with hn | hn
    · exact hnew n hn
    · refine ⟨(hnew' n hn).1, ?_⟩
      cases habsent : d.at? n with
      | none => rfl
      | some e =>
          -- what was there would still be there
          have hthere := (h.at?_eq habsent).symm.trans (hnew' n hn).2
          cases hthere

/-- New directories are where there was nothing before. -/
theorem mono {made' : List String → Prop} (h : Grown made d d')
    (hmade : ∀ n, made n → d.at? n = none → made' n) : Grown made' d d' := by
  rcases h.entries with ⟨new, hentries, hnew⟩
  refine ⟨h.workplace, new, hentries, fun n hn => ?_⟩
  exact ⟨hmade n (hnew n hn).1 (hnew n hn).2, (hnew n hn).2⟩

theorem put {names : List String} (hmade : made names) (habsent : d.at? names = none) :
    Grown made d (d.put names .directory) := by
  have hne : ¬ names.isEmpty = true := by
    intro hroot
    simp [at?, hroot] at habsent
  have hlookup : d.entries.lookup names = none := by
    unfold at? at habsent
    rwa [if_neg hne] at habsent
  -- nothing is replaced, since nothing was there
  have hkept : d.entries.filter (fun entry => entry.1 != names) = d.entries := by
    apply List.filter_eq_self.2
    intro entry hentry
    have hname := List.lookup_eq_none_iff.1 hlookup entry hentry
    simpa [bne, BEq.comm] using hname
  refine ⟨rfl, [names], ?_, ?_⟩
  · unfold Disk.put
    dsimp only
    rw [hkept]
    rfl
  · intro n hn
    rw [List.mem_singleton.1 hn]
    exact ⟨hmade, habsent⟩

/-- Growing changes nothing but where directories are made. -/
theorem confined {inside : List String → Prop} (h : Grown made d d') :
    Confined inside made d d' := by
  rcases h.entries with ⟨new, hentries, hnew⟩
  refine ⟨h.workplace, fun names _ => ?_⟩
  by_cases hnames : names ∈ new
  · -- what is new is a directory where nothing was, and this is not the root
    have habsent := (hnew names hnames).2
    refine Or.inr ⟨(hnew names hnames).1, habsent, ?_⟩
    unfold at? at habsent ⊢
    by_cases hroot : names.isEmpty = true
    · rw [if_pos hroot] at habsent
      cases habsent
    · rw [if_neg hroot] at habsent ⊢
      rw [hentries, List.lookup_append, habsent, lookup_directories, if_pos hnames]
      rfl
  · left
    unfold at?
    rw [hentries, List.lookup_append, lookup_directories, if_neg hnames, Option.or_none]

theorem ne_file (h : Grown made d d') {names : List String}
    (hfile : ∀ content, d.at? names ≠ some (.file content)) (content : Octets) :
    d'.at? names ≠ some (.file content) := by
  have hconfined : Confined (fun _ => False) made d d' := h.confined
  rcases hconfined.outside names id with hsame | ⟨-, -, hdirectory⟩
  · rw [hsame]
    exact hfile content
  · simp [hdirectory]

end Grown

/-! ## Operations -/

section Operations

variable {inside way : List String → Prop} {d d' : Disk}

/-- A directory is made, or is there already, or the disk stays and says why. -/
theorem ensureDirectory_cases (d : Disk) (path : String) :
    (∃ names, d.place (bare path) = .ok names ∧ d.at? names = none ∧
        d.ensureDirectory path = (d.put names .directory, .ok ())) ∨
      (d.isDirectory path = true ∧ d.ensureDirectory path = (d, .ok ())) ∨
      ∃ e, d.ensureDirectory path = (d, .error e) ∧ (e.cause = .occupied ∨
        ∃ cause, d.place (bare path) = .error cause) := by
  unfold ensureDirectory makeDirectory
  cases hplace : d.place (bare path) with
  | error cause =>
      dsimp only
      by_cases hdirectory : d.isDirectory path = true
      · exact Or.inr (Or.inl ⟨hdirectory, by rw [if_pos hdirectory]⟩)
      · exact Or.inr (Or.inr ⟨_, by rw [if_neg hdirectory], Or.inr ⟨cause, rfl⟩⟩)
  | ok names =>
      -- what is at the place already is either a directory or in the way
      cases hat : d.at? names with
      | none => exact Or.inl ⟨names, rfl, hat, by simp [hat]⟩
      | some e =>
          dsimp only
          rw [hat]
          dsimp only
          by_cases hdirectory : d.isDirectory path = true
          · exact Or.inr (Or.inl ⟨hdirectory, by rw [if_pos hdirectory]⟩)
          · exact Or.inr (Or.inr ⟨_, by rw [if_neg hdirectory], Or.inl rfl⟩)

/-- Making a directory makes the one that its path is written for. -/
theorem grown_ensureDirectory (hd : d.IsPlaced) (path : String) :
    Grown (d.LeadsThrough path) d (d.ensureDirectory path).1 := by
  rcases d.ensureDirectory_cases path with ⟨names, hplace, habsent, hmade⟩ | ⟨-, hstays⟩ |
    ⟨e, hstays, -⟩
  · -- without its slashes at the end the path leads to the same names
    have hbare : bare path ≠ "" := by
      intro hempty
      rw [hempty] at hplace
      simp [place] at hplace
    have hthrough : d.LeadsThrough path names := by
      rw [namesAt_of_place hd hplace]
      exact (leadsThrough_namesAt d (bare path)).of_begins (begins_bare path) hbare
    rw [hmade]
    exact Grown.put hthrough habsent
  · rw [hstays]
    exact Grown.refl d
  · rw [hstays]
    exact Grown.refl d

/-- What is above a path is there, or nothing is written above it. -/
def hasAbove (d : Disk) (path : String) : Bool :=
  (above path).isEmpty || d.isThere (above path)

theorem hasAbove_eq_false_iff {d : Disk} {path : String} :
    d.hasAbove path = false ↔ above path ≠ "" ∧ d.isThere (above path) = false := by
  simp [hasAbove]

theorem makePathFrom_of_hasAbove (steps : Nat) {d : Disk} {path : String}
    (h : d.hasAbove path = true) : makePathFrom (steps + 1) d path = d.ensureDirectory path := by
  unfold hasAbove at h
  rw [makePathFrom, if_pos h]

/-- What is above a path is made first, if it is not there. -/
theorem makePathFrom_of_not_hasAbove (steps : Nat) {d : Disk} {path : String}
    (h : d.hasAbove path = false) :
    makePathFrom (steps + 1) d path =
      match makePathFrom steps d (above path) with
      | (d, .ok _) => d.ensureDirectory path
      | (d, .error e) => if e.cause == .occupied then d.ensureDirectory path else (d, .error e) := by
  unfold hasAbove at h
  rcases hupper : makePathFrom steps d (above path) with ⟨made, e | _⟩ <;>
    simp [makePathFrom, h, hupper]

/-- The last step of making a path is taken unless something above it cannot be made. -/
theorem makePathFrom_cases (steps : Nat) (d : Disk) (path : String) :
    (d.hasAbove path = true ∧ makePathFrom (steps + 1) d path = d.ensureDirectory path) ∨
      (d.hasAbove path = false ∧
        (makePathFrom (steps + 1) d path =
            (makePathFrom steps d (above path)).1.ensureDirectory path ∨
        ∃ e, (makePathFrom steps d (above path)).2 = .error e ∧ e.cause ≠ .occupied ∧
          makePathFrom (steps + 1) d path = ((makePathFrom steps d (above path)).1, .error e))) := by
  cases hupper : d.hasAbove path with
  | true => exact Or.inl ⟨rfl, makePathFrom_of_hasAbove steps hupper⟩
  | false =>
      refine Or.inr ⟨rfl, ?_⟩
      rw [makePathFrom_of_not_hasAbove steps hupper]
      rcases makePathFrom steps d (above path) with ⟨made, e | _⟩
      · by_cases hoccupied : e.cause = .occupied
        · exact Or.inl (by simp [hoccupied])
        · exact Or.inr ⟨e, rfl, hoccupied, by simp [hoccupied]⟩
      · exact Or.inl rfl

/-- Making a path makes no directory that the path does not lead through. -/
theorem grown_makePathFrom (steps : Nat) (hd : d.IsPlaced) (path : String) :
    Grown (d.LeadsThrough path) d (makePathFrom steps d path).1 := by
  -- what stands above a path begins it, and so leads through nothing else
  induction steps generalizing d path with
  | zero => exact Grown.refl d
  | succ steps ih =>
      rcases makePathFrom_cases steps d path with ⟨-, hnow⟩ | ⟨hupper, hrest⟩
      · rw [hnow]
        exact grown_ensureDirectory hd path
      · have hgrown : Grown (d.LeadsThrough path) d (makePathFrom steps d (above path)).1 := by
          apply (ih hd (above path)).mono
          intro names hnames _
          exact hnames.of_begins (begins_above path) (hasAbove_eq_false_iff.1 hupper).1
        rcases hrest with hthen | ⟨e, -, -, hfails⟩
        · rw [hthen]
          refine hgrown.trans ((grown_ensureDirectory (isPlaced_congr hgrown.workplace hd) path).mono ?_)
          exact fun names h _ => (leadsThrough_congr hgrown.workplace path names).1 h
        · rw [hfails]
          exact hgrown

theorem grown_makePath (hd : d.IsPlaced) (path : String) :
    Grown (d.LeadsThrough path) d (d.makePath path).1 :=
  grown_makePathFrom (path.length + 1) hd path

theorem confined_makePath (hd : d.IsPlaced) (path : String) :
    Confined inside (d.LeadsThrough path) d (d.makePath path).1 :=
  (grown_makePath hd path).confined

/-- A file is put at the names that its path is written for, unless a directory is there. -/
theorem write_eq_ok (hd : d.IsPlaced) {path : String} {content : Octets}
    (h : d.write path content = .ok d') :
    d.at? (d.namesAt path) ≠ some .directory ∧ d' = d.put (d.namesAt path) (.file content) := by
  unfold write at h
  cases hplace : d.place path with
  | error cause => simp [hplace] at h
  | ok names =>
      simp only [hplace] at h
      rw [← namesAt_of_place hd hplace]
      split at h
      · cases h
      · rename_i hat
        cases h
        exact ⟨hat, rfl⟩

theorem confined_write (hd : d.IsPlaced) {path : String} {content : Octets}
    (h : d.write path content = .ok d') (hinside : inside (d.namesAt path)) :
    Confined inside way d d' := by
  rcases write_eq_ok hd h with ⟨-, rfl⟩
  exact Confined.put _ hinside

/--
A directory is emptied, and then it stays, or the path still leads somewhere and the directory is
removed, if it is not the root.
-/
theorem removeDirectory_cases (d : Disk) (path : String) (names : List String) :
    (∃ cause, d.removeDirectory path names = (d.emptied names, some cause)) ∨
      (names ≠ [] ∧ (∃ reached, (d.emptied names).place path = .ok reached) ∧
        d.removeDirectory path names = ((d.emptied names).removeTree names, none)) := by
  unfold removeDirectory
  dsimp only
  cases hplace : (d.emptied names).place path with
  | error cause => exact Or.inl ⟨_, rfl⟩
  | ok reached =>
      dsimp only
      split
      · exact Or.inl ⟨_, rfl⟩
      · split
        · exact Or.inl ⟨_, rfl⟩
        · rename_i hne
          exact Or.inr ⟨by simpa using hne, ⟨reached, rfl⟩, rfl⟩

/-- Removing a directory removes nothing that is not in it. -/
theorem confined_removeDirectory (d : Disk) (path : String) {names : List String}
    (h : ∀ other, names <+: other → inside other) :
    Confined inside way d (d.removeDirectory path names).1 := by
  have hemptied : Confined inside way d (d.emptied names) := Confined.emptied h
  rcases d.removeDirectory_cases path names with ⟨cause, hstays⟩ | ⟨-, -, hremoved⟩
  · rw [hstays]
    exact hemptied
  · rw [hremoved]
    exact hemptied.trans (Confined.removeTree h)

end Operations

end Disk
end RoleAudit
