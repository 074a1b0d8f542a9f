import RoleAudit.Proofs.Extraction.Origin

/-!
# What is selected from an archive

An entry is selected by the name that it has in the archive, and put where this name leads when it is
resolved. The two views agree on excluded directories, but not on the source directory:

- `wantedOf_of_subset`: excluding more directories only takes entries away;
- `mem_of_below`: names below the root come from the parts, but for the source directory itself;
- `extractFrom_excluded`: no excluded directory appears, nor anything in one;
- `Descends`, `IsBelowSources`: a name that takes nothing back, and a place in the source directory;
- `extractFrom_belowSources_iff`: all files lie in the source directory if and only if all entries
  lead there.
-/

namespace RoleAudit

open RoleAudit.Path

/-! ## Names that are selected -/

/-- What is selected is selected too when fewer directories are excluded. -/
theorem isSourceEntry_of_subset {relative : String} {isDirectory : Bool}
    {excluded excluded' : List String} (hsubset : excluded ⊆ excluded')
    (h : isSourceEntry relative isDirectory excluded' = true) :
    isSourceEntry relative isDirectory excluded = true := by
  unfold isSourceEntry at h ⊢
  dsimp only at h ⊢
  split at h
  · simp only [Bool.and_eq_true, Bool.not_eq_true', List.any_eq_false] at h ⊢
    rcases h with ⟨hkept, hnone⟩
    refine ⟨hkept, ?_⟩
    intro n hn hexcluded
    apply hnone n hn
    simpa using hsubset (by simpa using hexcluded)
  · cases h

/-- Excluding more directories only takes entries away. -/
theorem wantedOf_of_subset (wrapper : String) {excluded excluded' : List String}
    (hsubset : excluded ⊆ excluded') (entries : List Archive.Entry) :
    wantedOf wrapper excluded' entries = (wantedOf wrapper excluded entries).filter
      fun w => isSourceEntry w.relative w.entry.isDirectory excluded' := by
  unfold wantedOf
  rw [List.filter_filterMap]
  apply List.filterMap_congr
  intro e _
  cases relativeName? wrapper e.name with
  | none => rfl
  | some relative =>
      dsimp only
      cases hmore : isSourceEntry relative e.isDirectory excluded' with
      | true => simp [isSourceEntry_of_subset hsubset hmore, Option.filter, hmore]
      | false =>
          cases isSourceEntry relative e.isDirectory excluded <;> simp [Option.filter, hmore]

/-! ## Names below the root -/

section Below

variable {root : List String} (hroot : ∀ n ∈ root, IsName n)

include hroot

/-- A name below the root is a segment that follows the source directory, or this directory itself. -/
theorem mem_of_below {base segs above after : List String} {name : String} (hbase : base <+: root)
    (h : root ++ above ++ name :: after <+:
      resolveSegments true base.reverse (sourceRoot :: segs)) :
    name ∈ segs ∨ (above = [] ∧ name = sourceRoot) := by
  have hclean : ∀ n ∈ sourceRoot :: base.reverse, n ≠ ".." := by
    simp only [List.mem_cons, List.mem_reverse]
    rintro n (rfl | hn)
    · decide
    · exact (hroot n (hbase.subset hn)).2.2.1
  rw [resolveSegments_name true _ segs (by decide) (by decide)] at h
  rcases resolveSegments_split hclean segs with ⟨kept, new, hsplit, hkept, hnew⟩
  rw [List.reverse_cons, List.reverse_reverse, List.prefix_concat_iff] at hkept
  have hfront : root ++ above ++ [name] <+: kept ++ new := by
    rw [← hsplit]
    refine List.IsPrefix.trans ?_ h
    exact ⟨after, by simp⟩
  -- what stays reaches below the root only with the source directory
  have hstays : root ++ above ++ [name] <+: kept → above = [] ∧ name = sourceRoot := by
    intro hin
    have hwhole : root ++ above ++ [name] <+: base ++ [sourceRoot] := by
      rcases hkept with rfl | hkept
      · exact hin
      · exact (hin.trans hkept).trans (List.prefix_append base [sourceRoot])
    have hlength := hwhole.length_le
    have hshorter := hbase.length_le
    simp only [List.length_append, List.length_singleton] at hlength
    have habove : above = [] := List.eq_nil_of_length_eq_zero (by omega)
    subst habove
    have hsame := hwhole.eq_of_length (by simp; omega)
    exact ⟨rfl, (List.append_singleton_inj.1 hsame).2⟩
  rcases List.prefix_or_prefix_of_prefix hfront (List.prefix_append kept new) with hin | hout
  · exact Or.inr (hstays hin)
  · rcases List.prefix_concat_iff.1 hout with rfl | ⟨more, hmore⟩
    · exact Or.inr (hstays (List.prefix_refl _))
    · left
      rw [← hmore, List.append_assoc, List.prefix_append_right_inj] at hfront
      exact hnew name (hfront.subset (by simp))

/-- The directory of an entry is led to by the directories in its name. -/
theorem exists_directory_prefix {w : Wanted} {rest : List String}
    (hparts : parts w.relative = sourceRoot :: rest) :
    ∃ base, base <+: root ∧ w.directory root <+: resolveSegments true base.reverse
      (sourceRoot :: directoriesOf w.entry.isDirectory (parts w.relative)) := by
  rcases exists_names_join hroot w.relative with ⟨base, hbase, hnames⟩
  refine ⟨base, hbase, ?_⟩
  rw [hparts] at hnames ⊢
  unfold Wanted.directory directoriesOf Wanted.names
  rw [hnames]
  cases w.entry.isDirectory with
  | true => exact List.prefix_refl _
  | false =>
      -- the file itself is the last part, and it may be the source directory's namesake
      rcases List.eq_nil_or_concat' rest with rfl | ⟨before, last, rfl⟩
      · exact List.dropLast_prefix _
      · simpa using dropLast_resolveSegments_concat base.reverse (sourceRoot :: before) last

end Below

/-! ## Excluded directories -/

/-- What an entry brings lies in no excluded directory, and is none. -/
theorem not_mem_excluded_of_brings {root : List String} (hroot : ∀ n ∈ root, IsName n) {w : Wanted}
    {excluded above below : List String} {name : String} {e : DiskEntry}
    (hselected : isSourceEntry w.relative w.entry.isDirectory excluded = true)
    (hbrings : w.Brings root (root ++ above ++ name :: below) e)
    (hdirectory : e = .directory ∨ below ≠ []) (hname : name ∈ excluded) :
    above = [] ∧ name = sourceRoot := by
  rcases exists_parts_of_isSourceEntry hselected with ⟨rest, hparts, hnone⟩
  rcases exists_directory_prefix hroot hparts with ⟨base, hbase, hway⟩
  -- an excluded name that is no part can only be that of the source directory
  have hfront : ∀ after, root ++ above ++ name :: after <+: w.directory root →
      above = [] ∧ name = sourceRoot := by
    intro after hafter
    rcases mem_of_below hroot hbase (hafter.trans hway) with hmem | hsource
    · exact absurd hname (hnone name hmem)
    · exact hsource
  generalize hnames : root ++ above ++ name :: below = names at hbrings
  cases hbrings with
  | directory hfound =>
      subst hnames
      exact hfront below hfound
  | file content hfile =>
      have hne : below ≠ [] := hdirectory.resolve_left (by simp)
      apply hfront below.dropLast
      have hdrop : (w.names root).dropLast = root ++ above ++ name :: below.dropLast := by
        rw [← hnames, List.dropLast_append_of_ne_nil (List.cons_ne_nil _ _),
          List.dropLast_cons_of_ne_nil hne]
      unfold Wanted.directory
      rw [← hdrop]
      simp [hfile]

/--
Wherever an extraction ends, once nothing is left of the old directory: below its place there is no
directory with an excluded name but the source directory itself, and nothing lies in one. Nothing is
left of a directory that the path led to, and nothing appears where there was none. Excluding more
directories only takes entries away and keeps the others in order.
-/
theorem extractFrom_excluded (d : Disk) (hd : d.IsPlaced) (entries : List Archive.Entry)
    (path : String) (excluded : List String) :
    let place := d.namesAt path
    let after := (extractFrom d (.ok entries) path excluded).value.1
    ((d.replacedAt path).IsBare place → ∀ above name below e,
      after.at? (place ++ above ++ name :: below) = some e → (e = .directory ∨ below ≠ []) →
        name ∈ excluded → above = [] ∧ name = sourceRoot) ∧
    (d.find path = .ok (place, .directory) ∨ (d.IsDirect path ∧ d.Lacks place) →
      (d.replacedAt path).IsBare place) ∧
    ∀ excluded', excluded ⊆ excluded' →
      (wantedIn excluded' entries).Sublist (wantedIn excluded entries) := by
  dsimp only
  refine ⟨?_, ?_, ?_⟩
  · intro hbare above name below e hat hdirectory hname
    rw [value_extractFrom_ok] at hat
    have hbelow : d.namesAt path <+: d.namesAt path ++ above ++ name :: below :=
      ⟨above ++ name :: below, by simp⟩
    -- all that is there was brought by an entry that was selected
    rcases (extractAll_brings hd path _).1 _ e hbelow hat with hbefore | ⟨w, hw, hbrings⟩
    · rw [hbare _ hbelow (by simp)] at hbefore
      cases hbefore
    · exact not_mem_excluded_of_brings (Disk.isName_namesAt hd path)
        (isSourceEntry_of_mem_wantedOf hw) hbrings hdirectory hname
  · rintro (hfind | ⟨hdirect, hlacks⟩)
    · exact isBare_replacedAt_of_found hd hfind
    · exact isBare_replacedAt_of_lacks hd hdirect hlacks
  · intro excluded' hsubset
    unfold wantedIn
    rw [wantedOf_of_subset _ hsubset]
    exact List.filter_sublist

/-- A disk with an old project that has a directory to exclude. -/
def diskWithProject : Disk :=
  ⟨[(["place"], .directory), (["place", "auth"], .directory)], []⟩

/-- A file that is called like an excluded directory, and one that lies in it. -/
def namesakeProject : List Archive.Entry :=
  [⟨"src/auth", fun _ => .ok [1]⟩, ⟨"src/auth/login.ts", fun _ => .ok [2]⟩]

theorem extractFrom_excluded_namesakeProject :
    let after := (extractFrom diskWithProject (.ok namesakeProject) "/place" ["auth"]).value.1
    after.at? ["place", "src", "auth"] = some (.file [1]) ∧
      (∀ name, after.at? ["place", "src", "auth", name] = none) ∧
      after.at? ["place", "auth"] ≠ some .directory := by
  have hplaced : diskWithProject.IsPlaced := by
    unfold Disk.IsPlaced
    decide
  rcases extractFrom_excluded diskWithProject hplaced namesakeProject "/place" ["auth"] with
    ⟨hnone, hbare, -⟩
  have hnames : diskWithProject.namesAt "/place" = ["place"] := by decide +kernel
  have hfind : diskWithProject.find "/place" = .ok (["place"], .directory) := by decide +kernel
  rw [hnames] at hnone hbare
  specialize hnone (hbare (Or.inl hfind))
  refine ⟨by decide +kernel, ?_, ?_⟩
  · intro name
    by_contra hsome
    rcases Option.ne_none_iff_exists'.1 hsome with ⟨e, he⟩
    have hsource := hnone ["src"] "auth" [name] e he (Or.inr (by simp)) (by simp)
    cases hsource.1
  · intro hold
    have hsource := hnone [] "auth" [] .directory hold (Or.inl rfl) (by simp)
    exact absurd hsource.2 (by decide)

/-! ## The source directory -/

/-- Some names lead to something in the source directory below a place. -/
def IsBelowSources (place names : List String) : Prop :=
  ∃ first rest, names = place ++ sourceRoot :: first :: rest

/-- A relative name that takes nothing back and goes on after its first part. -/
def Descends (relative : String) : Prop :=
  isAbsolute relative = false ∧ ".." ∉ parts relative ∧
    2 ≤ ((parts relative).filter (· != ".")).length

/-- A name that descends from the source directory leads to something in it. -/
theorem Descends.isBelowSources {root : List String} (hroot : ∀ n ∈ root, IsName n) {w : Wanted}
    (h : Descends w.relative) {rest : List String} (hparts : parts w.relative = sourceRoot :: rest) :
    IsBelowSources root (w.names root) := by
  rcases h with ⟨hrelative, hup, hlong⟩
  have hnonempty : ∀ s ∈ parts w.relative, s ≠ "" := by
    intro s hs
    simpa [String.isEmpty_iff] using (List.mem_filter.1 hs).2
  -- without steps up only the dots are dropped from the parts of the name
  have hplain : (parts w.relative).filter (fun s => !(s == "" || s == ".")) =
      (parts w.relative).filter (· != ".") := by
    apply List.filter_congr
    intro s hs
    simp [hnonempty s hs, bne]
  have hfirst : (parts w.relative).filter (· != ".") = sourceRoot :: rest.filter (· != ".") := by
    rw [hparts, List.filter_cons_of_pos (by decide)]
  have hnames : w.names root = root ++ (parts w.relative).filter (· != ".") := by
    rw [Wanted.names, names_join hrelative, names_fromRoot hroot,
      resolveSegments_of_not_mem true _ hup, hplain, List.reverse_reverse]
  rw [hfirst] at hlong hnames
  cases hmore : rest.filter (· != ".") with
  | nil => simp [hmore] at hlong
  | cons first others => exact ⟨first, others, by rw [hnames, hmore]⟩

section Files

variable {d : Disk} (hd : d.IsPlaced) {entries : List Archive.Entry} {path : String}
  {excluded : List String} {e : Extraction}
  (he : (extractFrom d (.ok entries) path excluded).value.2 = .ok e)

include hd he

/-- An extraction tells of the files of all entries, and picks the controllers among them. -/
theorem written_extractFrom :
    e.written = ((wantedIn excluded entries).filter fun w => !w.entry.isDirectory).map
        (fun w => fromRoot (w.names (d.namesAt path))) ∧
      e.controllers ⊆ e.written := by
  rcases exists_files_of_extractFrom he with ⟨files, hok, rfl⟩
  have hfiles := (extractAll_brings hd path _).2 files hok
  refine ⟨by simp [Extraction.ofFiles, hfiles], ?_⟩
  exact (List.filter_sublist.map _).subset

/-- All files at the place of an extraction that succeeds are those of entries. -/
theorem exists_wanted_of_file (hbare : (d.replacedAt path).IsBare (d.namesAt path))
    {names : List String} {content : Octets} (hbelow : d.namesAt path <+: names)
    (hat : (extractFrom d (.ok entries) path excluded).value.1.at? names =
      some (.file content)) :
    ∃ w ∈ (wantedIn excluded entries).filter fun w => !w.entry.isDirectory,
      names = w.names (d.namesAt path) := by
  rcases exists_files_of_extractFrom he with ⟨files, hok, -⟩
  rw [value_extractFrom_ok] at hat
  rcases (extractAll_brings hd path _).1 names _ hbelow hat with hold | ⟨w, hw, hbrings⟩
  · -- at the place itself there was a directory, and nothing below it
    by_cases hsame : names = d.namesAt path
    · rw [hsame, at?_replacedAt hd (Extracting.run_makePlace_of_extractAll hok)] at hold
      cases hold
    · rw [hbare names hbelow hsame] at hold
      cases hold
  · cases hbrings with
    | file _ hfile => exact ⟨w, List.mem_filter.2 ⟨hw, by simp [hfile]⟩, rfl⟩

end Files

/--
When an extraction succeeds and nothing is left of the old directory, all files at the place and all
that it tells of lie in the source directory if and only if all entries of files lead there. The
names that descend do.
-/
theorem extractFrom_belowSources_iff (d : Disk) (hd : d.IsPlaced) (entries : List Archive.Entry)
    (path : String) (excluded : List String) (e : Extraction)
    (he : (extractFrom d (.ok entries) path excluded).value.2 = .ok e)
    (hbare : (d.replacedAt path).IsBare (d.namesAt path)) :
    let place := d.namesAt path
    let after := (extractFrom d (.ok entries) path excluded).value.1
    let files := (wantedIn excluded entries).filter fun w => !w.entry.isDirectory
    ((∀ names content, place <+: names → after.at? names = some (.file content) →
        IsBelowSources place names) ∧
      (∀ file ∈ e.written ++ e.controllers, IsBelowSources place (Path.names file)) ↔
        ∀ w ∈ files, IsBelowSources place (w.names place)) ∧
    ∀ w ∈ files, Descends w.relative → IsBelowSources place (w.names place) := by
  dsimp only
  rcases written_extractFrom hd he with ⟨hwritten, hcontrollers⟩
  refine ⟨⟨?_, ?_⟩, ?_⟩
  · rintro ⟨-, hall⟩ w hw
    -- each wanted file is told
    have htold : fromRoot (w.names (d.namesAt path)) ∈ e.written := by
      rw [hwritten]
      exact List.mem_map_of_mem hw
    have hlies := hall _ (List.mem_append_left _ htold)
    rwa [names_fromRoot (isName_names _)] at hlies
  · intro hall
    refine ⟨?_, ?_⟩
    · intro names content hbelow hat
      -- each file that is there is a wanted one, and so is each that is told
      rcases exists_wanted_of_file hd he hbare hbelow hat with ⟨w, hw, rfl⟩
      exact hall w hw
    · intro file hfile
      have htold : file ∈ e.written := (List.mem_append.1 hfile).elim id fun h => hcontrollers h
      rw [hwritten] at htold
      rcases List.mem_map.1 htold with ⟨w, hw, rfl⟩
      rw [names_fromRoot (isName_names _)]
      exact hall w hw
  · intro w hw hdescends
    have hselected := isSourceEntry_of_mem_wantedOf (List.mem_filter.1 hw).1
    rcases exists_parts_of_isSourceEntry hselected with ⟨rest, hparts, -⟩
    exact hdescends.isBelowSources (Disk.isName_namesAt hd path) hparts

/-- A file that goes through the source directory and out of it again. -/
def strayingEntry : Archive.Entry :=
  ⟨"src/../stray.controller.ts", fun _ => .ok [1]⟩

theorem extractFrom_belowSources_iff_strayingEntry :
    ∃ e, (extractFrom diskWithProject (.ok [strayingEntry]) "/place" []).value.2 = .ok e ∧
      ¬ ((∀ names content, ["place"] <+: names →
          (extractFrom diskWithProject (.ok [strayingEntry]) "/place" []).value.1.at? names =
            some (.file content) → IsBelowSources ["place"] names) ∧
        ∀ file ∈ e.written ++ e.controllers, IsBelowSources ["place"] (Path.names file)) := by
  have hplaced : diskWithProject.IsPlaced := by
    unfold Disk.IsPlaced
    decide
  have hnames : diskWithProject.namesAt "/place" = ["place"] := by decide +kernel
  have hfind : diskWithProject.find "/place" = .ok (["place"], .directory) := by decide +kernel
  have hbare := isBare_replacedAt_of_found hplaced hfind
  have hsucceeds : (extractFrom diskWithProject (.ok [strayingEntry]) "/place" []).value.2.isOk =
      true := by decide +kernel
  cases hresult : (extractFrom diskWithProject (.ok [strayingEntry]) "/place" []).value.2 with
  | error error =>
      rw [hresult] at hsucceeds
      cases hsucceeds
  | ok e =>
      refine ⟨e, rfl, ?_⟩
      intro hall
      rw [← hnames] at hbare hall
      have hiff := (extractFrom_belowSources_iff diskWithProject hplaced [strayingEntry] "/place"
        [] e hresult hbare).1
      -- the entry leads to the place itself
      have hstrays : (⟨"src/../stray.controller.ts", strayingEntry⟩ : Wanted) ∈
          (wantedIn [] [strayingEntry]).filter fun w => !w.entry.isDirectory := by
        apply List.mem_filter.2
        exact ⟨mem_wantedOf (by simp) (by decide +kernel) (by decide +kernel), by decide +kernel⟩
      rcases hiff.1 hall _ hstrays with ⟨first, rest, hlies⟩
      have hleads : Wanted.names (diskWithProject.namesAt "/place")
          ⟨"src/../stray.controller.ts", strayingEntry⟩ = ["place", "stray.controller.ts"] := by
        decide +kernel
      rw [hleads, hnames] at hlies
      simp [sourceRoot] at hlies

end RoleAudit
