import RoleAudit.Proofs.Extraction.Lockstep
import RoleAudit.Proofs.Text.Distinct

/-!
# A directory around a project

A project may be archived from the outside, so that one directory holds all of it, or from the inside.
Both archives are extracted alike, also beside the files that some systems put into an archive:

- `IsWrapperName`, `IsWrapped`: a directory that can stand around a project, and an entry in it;
- `IsMetadata`: an entry that belongs to the archive and not to the project;
- `wrapperOf_of_sources`, `wrapperOf_wrapped`: which directory is found around either archive;
- `forall₂_wantedOf`: in both the same entries are wanted under the same relative names;
- `extractFrom_wrapped`: so both extractions leave the same disk and end alike.
-/

namespace RoleAudit

open RoleAudit.Path

/-! ## Names -/

/-- A name whose first part is given goes on after it with a slash, or is it. -/
theorem firstPart_append_slash {first : String} (h : '/' ∉ first.toList) (rest : String) :
    firstPart (first ++ "/" ++ rest) = first := by
  unfold firstPart
  rw [segments_append, segments_of_not_mem h]
  rfl

theorem firstPart_of_startsWith {first name : String} (h : '/' ∉ first.toList)
    (hname : Text.startsWith name (first ++ "/") = true) : firstPart name = first := by
  rcases Text.exists_eq_append_of_startsWith hname with ⟨rest, rfl⟩
  exact firstPart_append_slash h rest

/-- What starts with a dot has a first part that does. -/
theorem startsWith_firstPart_dot {name : String} (h : Text.startsWith name "." = true) :
    Text.startsWith (firstPart name) "." = true := by
  rcases Text.exists_eq_append_of_startsWith h with ⟨rest, rfl⟩
  have hlist : ("." ++ rest).toList = '.' :: rest.toList := by simp
  -- the dot is no slash, so it joins the first piece
  have hdot : ¬ (('.' : Char) == '/') = true := by decide
  rcases Text.pieces_cons_of_neg (p := (· == '/')) hdot rest.toList with ⟨first, others, -, hpieces⟩
  have hfirst : firstPart ("." ++ rest) = String.ofList ('.' :: first) := by
    simp [firstPart, segments, Text.splitAt, hlist, hpieces]
  rw [hfirst, Text.startsWith_iff]
  simp

/-- What lies in the source directory has it as its first part. -/
theorem firstPart_of_isUnderSources {name : String} (h : isUnderSources name = true) :
    firstPart name = sourceRoot := by
  rcases Bool.or_eq_true_iff.1 h with hsame | hbelow
  · rw [beq_iff_eq.1 hsame]
    decide
  · exact firstPart_of_startsWith (by decide) hbelow

/-- The first part of a name is its first name, unless it is empty. -/
theorem head?_parts {name : String} (h : firstPart name ≠ "") :
    (parts name).head? = some (firstPart name) := by
  unfold firstPart at h ⊢
  unfold parts
  cases hsegments : segments name with
  | nil => simp [hsegments] at h
  | cons first rest =>
      have hfirst : first ≠ "" := by simpa [hsegments] using h
      simp [hfirst]

/-- What belongs to the sources starts in the source directory. -/
theorem isSourceEntry_eq_false {relative : String} (isDirectory : Bool) (excluded : List String)
    (h : (parts relative).head? ≠ some sourceRoot) :
    isSourceEntry relative isDirectory excluded = false := by
  apply Bool.eq_false_iff.2
  intro hselected
  rcases exists_parts_of_isSourceEntry hselected with ⟨rest, hparts, -⟩
  exact h (by rw [hparts, List.head?_cons])

/-! ## Metadata -/

/--
An entry that belongs to the archive and not to the project: it lies in a directory that archives
carry, or its name starts with a dot.
-/
def IsMetadata (name : String) : Prop :=
  firstPart (slashed name) ∈ archiveMetadata ∨ Text.startsWith (slashed name) "." = true

instance : DecidablePred IsMetadata := fun name => by
  unfold IsMetadata
  infer_instance

theorem isMetadata_of_startsWith {name : String}
    (h : Text.startsWith (slashed name) "__MACOSX/" = true ∨
      Text.startsWith (slashed name) "." = true) : IsMetadata name := by
  refine h.imp_left fun hdirectory => ?_
  have hfirst : firstPart (slashed name) = "__MACOSX" :=
    firstPart_of_startsWith (by decide) hdirectory
  simp [hfirst, archiveMetadata]

/-- Metadata does not begin like anything else. -/
theorem IsMetadata.firstPart_ne {name other : String} (h : IsMetadata name)
    (hother : other ∉ archiveMetadata) (hdot : Text.startsWith other "." = false) :
    firstPart (slashed name) ≠ other := by
  rintro rfl
  rcases h with hdirectory | hstarts
  · exact hother hdirectory
  · rw [startsWith_firstPart_dot hstarts] at hdot
    cases hdot

/-- Metadata is never wanted. -/
theorem IsMetadata.isSourceEntry_eq {name : String} (h : IsMetadata name) (isDirectory : Bool)
    (excluded : List String) : isSourceEntry (slashed name) isDirectory excluded = false := by
  have hne : firstPart (slashed name) ≠ "" := h.firstPart_ne (by decide) (by decide)
  have hfirst := head?_parts hne
  have hsources : firstPart (slashed name) ≠ sourceRoot := h.firstPart_ne (by decide) (by decide)
  apply isSourceEntry_eq_false
  simp [hfirst, hsources]

/-! ## Wrapped entries -/

/-- The name of a directory that can stand around a project. -/
structure IsWrapperName (wrapper : String) : Prop where
  nonempty : wrapper ≠ ""
  slashless : '/' ∉ wrapper.toList
  backslashless : '\\' ∉ wrapper.toList
  dotless : Text.startsWith wrapper "." = false
  noMetadata : wrapper ∉ archiveMetadata
  noSources : wrapper ≠ sourceRoot

/-- An entry, and what it is in an archive with a directory around the project. -/
structure IsWrapped (wrapper : String) (e e' : Archive.Entry) : Prop where
  name : e'.name = wrapper ++ "/" ++ e.name
  data : Archive.SameData (e.data ()) (e'.data ())

section Wrapper

variable {wrapper : String}

theorem slashed_wrapped (hw : '\\' ∉ wrapper.toList) (name : String) :
    slashed (wrapper ++ "/" ++ name) = wrapper ++ "/" ++ slashed name := by
  have hkept : ∀ c ∈ wrapper.toList, (if c == '\\' then '/' else c) = id c := by
    intro c hc
    have hne : c ≠ '\\' := by
      rintro rfl
      exact hw hc
    simp [hne]
  have hsame : wrapper.toList.map (fun c => if c == '\\' then '/' else c) = wrapper.toList := by
    rw [List.map_congr_left hkept, List.map_id]
  unfold slashed Text.swap
  rw [← String.toList_inj]
  simp only [String.toList_ofList, String.toList_append, List.map_append, hsame]
  rfl

theorem relativeName?_empty (name : String) :
    relativeName? "" name = if (slashed name).isEmpty then none else some (slashed name) := by
  simp [relativeName?, Text.startsWith, Text.dropFirst]

/-- Inside the wrapper a name is what it would be without it. -/
theorem relativeName?_wrapped (hw : '\\' ∉ wrapper.toList) (name : String) :
    relativeName? (wrapper ++ "/") (wrapper ++ "/" ++ name) = relativeName? "" name := by
  have hstarts := Text.startsWith_append (wrapper ++ "/") (slashed name)
  have hrest : Text.dropFirst (wrapper ++ "/" ++ slashed name) (wrapper ++ "/").toList.length =
      slashed name := by
    simp [Text.dropFirst]
  rw [relativeName?_empty]
  unfold relativeName?
  dsimp only
  rw [slashed_wrapped hw, if_pos hstarts, hrest]

/-- Metadata lies outside of every wrapper. -/
theorem IsMetadata.relativeName?_eq {name : String} (h : IsMetadata name)
    (hw : IsWrapperName wrapper) : relativeName? (wrapper ++ "/") name = none := by
  have houtside : Text.startsWith (slashed name) (wrapper ++ "/") = false := by
    apply Bool.eq_false_iff.2
    intro hinside
    exact h.firstPart_ne hw.noMetadata hw.dotless (firstPart_of_startsWith hw.slashless hinside)
  simp [relativeName?, houtside]

theorem names_wrapped {own own' : List Archive.Entry}
    (h : List.Forall₂ (IsWrapped wrapper) own own') :
    own'.map (·.name) = own.map fun e => wrapper ++ "/" ++ e.name := by
  induction h with
  | nil => rfl
  | cons he _ ih => rw [List.map_cons, List.map_cons, he.name, ih]

theorem IsWrapped.isDirectory_eq {e e' : Archive.Entry} (h : IsWrapped wrapper e e')
    (hne : e.name ≠ "") : e'.isDirectory = e.isDirectory := by
  unfold Archive.Entry.isDirectory Text.endsWith
  rw [h.name, Bool.eq_iff_iff, List.isSuffixOf_iff_suffix, List.isSuffixOf_iff_suffix]
  have hchars : e.name.toList ≠ [] := by simpa using hne
  -- both end with the same character
  have hslash : "/".toList = ['/'] := rfl
  rw [hslash, String.toList_append, List.singleton_suffix_iff_getLast?_eq_some,
    List.singleton_suffix_iff_getLast?_eq_some, List.getLast?_append_of_ne_nil _ hchars]

end Wrapper

/-! ## Finding the wrapper -/

/-- Where an entry lies in the source directory, no wrapper is looked for. -/
theorem wrapperOf_of_sources {names : List String}
    (h : ∃ name ∈ names, Text.startsWith (slashed name) (sourceRoot ++ "/") = true) :
    wrapperOf names = "" := by
  rcases h with ⟨name, hname, hsources⟩
  have hne : name ≠ "" := by
    rintro rfl
    exact absurd hsources (by decide)
  have hany : (((names.filter fun n => !n.isEmpty).map slashed).any isUnderSources) = true := by
    apply List.any_eq_true.2
    refine ⟨slashed name, List.mem_map_of_mem ?_, ?_⟩
    · exact List.mem_filter.2 ⟨hname, by simpa using hne⟩
    · simp [isUnderSources, hsources]
  unfold wrapperOf
  dsimp only
  rw [if_pos hany]

section Around

variable {wrapper : String} (hw : IsWrapperName wrapper)

include hw

theorem firstPart_wrapped (inner : String) :
    firstPart (slashed (wrapper ++ "/" ++ inner)) = wrapper := by
  rw [slashed_wrapped hw.backslashless, firstPart_append_slash hw.slashless]

/-- What is wrapped counts. -/
theorem counts_wrapped (inner : String) :
    (!archiveMetadata.contains (firstPart (slashed (wrapper ++ "/" ++ inner))) &&
      !Text.startsWith (slashed (wrapper ++ "/" ++ inner)) ".") = true := by
  have hdot : Text.startsWith (slashed (wrapper ++ "/" ++ inner)) "." = false := by
    apply Bool.eq_false_iff.2
    intro hdot
    have hfirstDot := startsWith_firstPart_dot hdot
    rw [firstPart_wrapped hw, hw.dotless] at hfirstDot
    cases hfirstDot
  simpa [firstPart_wrapped hw, hdot] using hw.noMetadata

variable {names : List String}
  (hnames : ∀ name ∈ names, (∃ inner, name = wrapper ++ "/" ++ inner) ∨ IsMetadata name)

include hnames

/-- Every name that is looked at starts with the wrapper, or is metadata. -/
theorem firstPart_of_mem_slashed {n : String}
    (hn : n ∈ (names.filter fun n => !n.isEmpty).map slashed) :
    ∃ name, n = slashed name ∧ (firstPart n = wrapper ∨ IsMetadata name) := by
  rcases List.mem_map.1 hn with ⟨name, hname, rfl⟩
  refine ⟨name, rfl, ?_⟩
  rcases hnames name (List.mem_filter.1 hname).1 with ⟨inner, rfl⟩ | hmetadata
  · exact Or.inl (firstPart_wrapped hw inner)
  · exact Or.inr hmetadata

/-- Neither what is wrapped nor metadata lies in the source directory itself. -/
theorem not_any_isUnderSources :
    ¬ (((names.filter fun n => !n.isEmpty).map slashed).any isUnderSources) = true := by
  intro hany
  rcases List.any_eq_true.1 hany with ⟨n, hn, hunder⟩
  have hroot := firstPart_of_isUnderSources hunder
  rcases firstPart_of_mem_slashed hw hnames hn with ⟨name, rfl, hfirst | hmetadata⟩
  · exact hw.noSources (hfirst.symm.trans hroot)
  · exact hmetadata.firstPart_ne (by decide) (by decide) hroot

/-- A directory around all entries but the metadata is found, if the sources are in it. -/
theorem wrapperOf_wrapped (hsources : ∃ inner, wrapper ++ "/" ++ inner ∈ names ∧
      Text.startsWith (slashed inner) (sourceRoot ++ "/") = true) :
    wrapperOf names = wrapper ++ "/" := by
  rcases hsources with ⟨inner, hinner, hstarts⟩
  have hclean : slashed (wrapper ++ "/" ++ inner) ∈
      (names.filter fun n => !n.isEmpty).map slashed := by
    apply List.mem_map_of_mem
    exact List.mem_filter.2 ⟨hinner, by simp⟩
  -- all entries that count have the same first part
  have hdistinct : Text.distinct ((((names.filter fun n => !n.isEmpty).map slashed).filter fun n =>
      !archiveMetadata.contains (firstPart n) && !Text.startsWith n ".").map firstPart) =
        [wrapper] := by
    apply Text.distinct_eq_singleton
    · apply List.ne_nil_of_mem
      exact List.mem_map_of_mem (List.mem_filter.2 ⟨hclean, counts_wrapped hw inner⟩)
    · intro first hmem
      rcases List.mem_map.1 hmem with ⟨n, hn, rfl⟩
      rcases List.mem_filter.1 hn with ⟨hn, hcounted⟩
      rcases firstPart_of_mem_slashed hw hnames hn with ⟨name, rfl, hfirst | hdirectory | hdot⟩
      · exact hfirst
      · simp [hdirectory] at hcounted
      · simp [hdot] at hcounted
  -- and the sources are in this directory
  have hinside : (((names.filter fun n => !n.isEmpty).map slashed).any fun n =>
      Text.startsWith n (wrapper ++ "/" ++ sourceRoot ++ "/")) = true := by
    apply List.any_eq_true.2
    refine ⟨_, hclean, ?_⟩
    rcases Text.exists_eq_append_of_startsWith hstarts with ⟨rest, hrest⟩
    have hwhole : slashed (wrapper ++ "/" ++ inner) =
        wrapper ++ "/" ++ sourceRoot ++ "/" ++ rest := by
      rw [slashed_wrapped hw.backslashless, hrest]
      simp only [String.append_assoc]
    rw [hwhole]
    exact Text.startsWith_append _ rest
  unfold wrapperOf
  dsimp only
  rw [if_neg (not_any_isUnderSources hw hnames), hdistinct]
  dsimp only
  rw [if_pos hinside]

end Around

/-! ## Both archives -/

/-- A list with further members put anywhere among those that it has. -/
structure Padded {α : Type} (own extra all : List α) : Prop where
  kept : own.Sublist all
  members : all.Perm (own ++ extra)

theorem Padded.length_eq {α : Type} {own extra all : List α} (h : Padded own extra all) :
    all.length = own.length + extra.length := by
  rw [h.members.length_eq, List.length_append]

/-- Members that give nothing leave no trace. -/
theorem Padded.filterMap_eq {α β : Type} {own extra all : List α} (h : Padded own extra all)
    {f : α → Option β} (hnone : ∀ a ∈ extra, f a = none) : all.filterMap f = own.filterMap f := by
  have hextra : extra.filterMap f = [] := List.filterMap_eq_nil_iff.2 hnone
  have hlength : (own.filterMap f).length = (all.filterMap f).length := by
    have hperm := (h.members.filterMap f).length_eq
    simpa [List.filterMap_append, hextra] using hperm.symm
  exact ((h.kept.filterMap f).eq_of_length hlength).symm

section Archives

variable {wrapper : String} {own own' extra plain whole : List Archive.Entry}
  (hmetadata : ∀ e ∈ extra, IsMetadata e.name)

include hmetadata

/-- Of an archive without a wrapper its own entries are wanted. -/
theorem wantedIn_plain (excluded : List String) (hplain : Padded own extra plain)
    (hsources : ∃ e ∈ own, Text.startsWith (slashed e.name) (sourceRoot ++ "/") = true) :
    wantedIn excluded plain = wantedOf "" excluded own := by
  have hwrapper : wrapperOf (plain.map (·.name)) = "" := by
    rcases hsources with ⟨e, he, hstarts⟩
    apply wrapperOf_of_sources
    exact ⟨e.name, List.mem_map_of_mem (hplain.kept.subset he), hstarts⟩
  unfold wantedIn
  rw [hwrapper]
  apply hplain.filterMap_eq
  intro e he
  have hunwanted := (hmetadata e he).isSourceEntry_eq e.isDirectory excluded
  by_cases hempty : (slashed e.name).isEmpty
  · simp only [relativeName?_empty, hempty, if_true]
  · simp only [relativeName?_empty, hempty, hunwanted, Bool.false_eq_true, if_false]

/-- Of an archive with a wrapper the entries in it are wanted. -/
theorem wantedIn_whole (excluded : List String) (hw : IsWrapperName wrapper)
    (hwrapped : List.Forall₂ (IsWrapped wrapper) own own') (hwhole : Padded own' extra whole)
    (hsources : ∃ e ∈ own, Text.startsWith (slashed e.name) (sourceRoot ++ "/") = true) :
    wantedIn excluded whole = wantedOf (wrapper ++ "/") excluded own' := by
  -- the wrapper is found, since the metadata do not count
  have hwrapper : wrapperOf (whole.map (·.name)) = wrapper ++ "/" := by
    refine wrapperOf_wrapped hw ?_ ?_
    · intro name hname
      rcases List.mem_map.1 hname with ⟨e', he', rfl⟩
      rcases List.mem_append.1 (hwhole.members.subset he') with hown | hextra
      · have hname : e'.name ∈ own.map fun e => wrapper ++ "/" ++ e.name :=
          names_wrapped hwrapped ▸ List.mem_map_of_mem hown
        rcases List.mem_map.1 hname with ⟨e, -, he⟩
        exact Or.inl ⟨e.name, he.symm⟩
      · exact Or.inr (hmetadata e' hextra)
    · rcases hsources with ⟨e, he, hstarts⟩
      have hname : wrapper ++ "/" ++ e.name ∈ own'.map (·.name) := by
        rw [names_wrapped hwrapped]
        exact List.mem_map_of_mem he
      exact ⟨e.name, (hwhole.kept.map _).subset hname, hstarts⟩
  unfold wantedIn
  rw [hwrapper]
  apply hwhole.filterMap_eq
  intro e he
  simp [(hmetadata e he).relativeName?_eq hw]

end Archives

/-- With and without the wrapper the same entries are wanted under the same relative names. -/
theorem forall₂_wantedOf {wrapper : String} (hw : IsWrapperName wrapper) (excluded : List String)
    {own own' : List Archive.Entry} (hwrapped : List.Forall₂ (IsWrapped wrapper) own own') :
    List.Forall₂ (Twins fun e e' => (e, e') ∈ own.zip own') (wantedOf "" excluded own)
      (wantedOf (wrapper ++ "/") excluded own') := by
  have hpairs : List.Forall₂ (fun e e' => (e, e') ∈ own.zip own' ∧ IsWrapped wrapper e e') own own' :=
    List.forall₂_iff_zip.2 ⟨hwrapped.length_eq, fun hpair =>
      ⟨hpair, (List.forall₂_iff_zip.1 hwrapped).2 hpair⟩⟩
  apply List.rel_filterMap _ hpairs
  rintro e e' ⟨hpair, he⟩
  have hrelative := relativeName?_wrapped hw.backslashless e.name
  dsimp only
  rw [he.name, hrelative]
  cases hname : relativeName? "" e.name with
  | none => exact Option.Rel.none
  | some relative =>
      -- an entry with a relative name has a name, and so its end is the one of its twin
      have hne : e.name ≠ "" := by
        intro hempty
        rw [hempty] at hname
        simp [relativeName?, slashed, Text.swap, Text.startsWith, Text.dropFirst] at hname
      dsimp only
      rw [he.isDirectory_eq hne]
      split
      · exact Option.Rel.some ⟨rfl, he.isDirectory_eq hne, hpair, he.data⟩
      · exact Option.Rel.none

/--
A project is extracted alike with and without a directory around it, whatever metadata either archive
carries besides, and wherever it stands: the disk is the same afterwards, and both extractions give
the same or fail in the same way at the same entry.
-/
theorem extractFrom_wrapped (d : Disk) (path : String) (excluded : List String) (wrapper : String)
    (own own' extra plain whole : List Archive.Entry) (hw : IsWrapperName wrapper)
    (hsources : ∃ e ∈ own, Text.startsWith (slashed e.name) (sourceRoot ++ "/") = true)
    (hmetadata : ∀ e ∈ extra, IsMetadata e.name)
    (hwrapped : List.Forall₂ (IsWrapped wrapper) own own')
    (hplain : Padded own extra plain) (hwhole : Padded own' extra whole) :
    let without := (extractFrom d (.ok plain) path excluded).value
    let within := (extractFrom d (.ok whole) path excluded).value
    within.1 = without.1 ∧ EndsAlike (fun e e' => (e, e') ∈ own.zip own') without.2 within.2 := by
  have htwins := forall₂_wantedOf hw excluded hwrapped
  have hlength : whole.length = plain.length := by
    rw [hwhole.length_eq, hplain.length_eq, hwrapped.length_eq]
  dsimp only
  rw [value_extractFrom_ok, value_extractFrom_ok, wantedIn_plain hmetadata excluded hplain hsources,
    wantedIn_whole hmetadata excluded hw hwrapped hwhole hsources, hlength, htwins.length_eq]
  rcases lockstep_extractAll path htwins d with ⟨hdisk, hend⟩
  exact ⟨hdisk, hend.map _⟩

/-- A project of three entries; the last one cannot be read. -/
def plainProject : List Archive.Entry :=
  [⟨"src\\b/", fun _ => .ok []⟩, ⟨"src/a.controller.ts", fun _ => .ok [1]⟩,
    ⟨"src/c", fun _ => .error (.badChecksum "src/c")⟩]

/-- The same project in a directory. -/
def wrappedProject : List Archive.Entry :=
  [⟨"p/src\\b/", fun _ => .ok []⟩, ⟨"p/src/a.controller.ts", fun _ => .ok [1]⟩,
    ⟨"p/src/c", fun _ => .error (.badChecksum "p/src/c")⟩]

/-- Metadata that some systems put into archives. -/
def finderMetadata : List Archive.Entry :=
  [⟨"__MACOSX/._p", fun _ => .ok [2]⟩, ⟨".DS_Store", fun _ => .ok [3]⟩]

theorem extractFrom_wrapped_project :
    let without := (extractFrom ⟨[], []⟩ (.ok (finderMetadata ++ plainProject)) "/place" []).value
    let within := (extractFrom ⟨[], []⟩ (.ok (wrappedProject ++ finderMetadata)) "/place" []).value
    within.1 = without.1 ∧
      EndsAlike (fun e e' => (e, e') ∈ plainProject.zip wrappedProject) without.2 within.2 := by
  have hw : IsWrapperName "p" :=
    ⟨by decide, by decide, by decide, by decide, by decide, by decide⟩
  have hsources : ∃ e ∈ plainProject,
      Text.startsWith (slashed e.name) (sourceRoot ++ "/") = true := by
    refine ⟨_, List.mem_cons_self, ?_⟩
    decide
  have hmetadata : ∀ e ∈ finderMetadata, IsMetadata e.name := by
    intro e he
    apply isMetadata_of_startsWith
    rcases List.mem_cons.1 he with rfl | he
    · exact Or.inl (by decide)
    · rw [List.mem_singleton.1 he]
      exact Or.inr (by decide)
  have hwrapped : List.Forall₂ (IsWrapped "p") plainProject wrappedProject :=
    .cons ⟨by decide, rfl⟩ (.cons ⟨by decide, rfl⟩ (.cons ⟨by decide, rfl⟩ .nil))
  -- the metadata may stand anywhere, before the project as well as after it
  have hplain : Padded plainProject finderMetadata (finderMetadata ++ plainProject) :=
    ⟨List.sublist_append_right _ _, List.perm_append_comm⟩
  have hwhole : Padded wrappedProject finderMetadata (wrappedProject ++ finderMetadata) :=
    ⟨List.sublist_append_left _ _, List.Perm.refl _⟩
  exact extractFrom_wrapped ⟨[], []⟩ "/place" [] "p" plainProject wrappedProject finderMetadata _ _ hw
    hsources hmetadata hwrapped hplain hwhole

end RoleAudit
