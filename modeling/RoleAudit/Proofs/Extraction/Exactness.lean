import RoleAudit.Proofs.Extraction.Effects
import RoleAudit.Proofs.Text.Distinct

/-!
# The tree that an extraction leaves

After an extraction there is at its place what the entries bring, and nothing else, as long as the
path still tells where the place is when the old tree is to be removed:

- `Disk.Holds`: the tree at a root is the one that entries bring;
- `Disk.IsRenewed`: the path leads to the old tree, or there is none;
- `isBare_replacedAt`: then nothing of it is left before the first entry is extracted;
- `wrapperOf_perm`, `filesOf_wantedOf`: what is wanted does not depend on where directories stand in
  the archive;
- `value_extractFrom_eq_ok_iff`: an extraction that succeeds, by its two stages;
- `extractFrom_exact`: what it leaves, what it tells, and what another order of the directories
  changes.

A path through a directory that does not exist is not followed, even if it comes back from there. Then
nothing is removed, while the directories on the way are made: the old tree and the new one are one.
-/

namespace RoleAudit

open RoleAudit.Path

/-! ## What is left of the old tree -/

/-- The tree at a root is the one that entries bring: their directories, and the last files. -/
structure Disk.Holds (d : Disk) (root : List String) (wanted : List Wanted) : Prop where
  file : ∀ names content, root <+: names → (d.at? names = some (.file content) ↔
    ∃ w, lastAt root wanted names = some w ∧ w.entry.data () = .ok content)
  directory : ∀ names, root <+: names → (d.at? names = some .directory ↔
    names = root ∨ ∃ w ∈ wanted, names <+: w.directory root)

/-- A path leads to a directory, or nothing is at its place and it does not lead through there. -/
def Disk.IsRenewed (d : Disk) (path : String) : Prop :=
  d.isDirectory path = true ∨ (d.IsDirect path ∧ d.Lacks (d.namesAt path))

/-- Nothing of an old tree is left that the path leads to. -/
theorem isBare_replacedAt {d : Disk} (hd : d.IsPlaced) {path : String} (h : d.IsRenewed path) :
    (d.replacedAt path).IsBare (d.namesAt path) := by
  rcases h with hdirectory | ⟨hdirect, hlacks⟩
  · rcases Disk.isDirectory_iff.1 hdirectory with ⟨names, hfind⟩
    rw [← Disk.namesAt_of_find hd hfind]
    exact isBare_replacedAt_of_found hd hfind
  · exact isBare_replacedAt_of_lacks hd hdirect hlacks

/-- Where a path leads nowhere, nothing is removed. -/
theorem run_makePlace_of_find_error {d : Disk} {path : String} {cause : DiskCause}
    (hfind : d.find path = .error cause) :
    (makePlace path).run.run d = ((d.makePath path).2.mapError .unwritable, (d.makePath path).1) := by
  unfold makePlace
  rw [Extracting.run_bind, Extracting.run_clearPlace, hfind]
  dsimp only
  rw [Extracting.run_changing]

theorem at?_replacedAt_of_find_error {d : Disk} (hd : d.IsPlaced) {path : String}
    {cause : DiskCause} (hfind : d.find path = .error cause) {names : List String} {e : DiskEntry}
    (hthere : d.at? names = some e) : (d.replacedAt path).at? names = some e := by
  have hgrown := Disk.grown_makePath hd path
  unfold Disk.replacedAt
  rw [run_makePlace_of_find_error hfind]
  dsimp only
  exact hgrown.at?_eq hthere

/-- Where a place can be made but is not found, something on the way to it is not there. -/
theorem exists_absent_of_find_error {d : Disk} {names : List String} {cause : DiskCause}
    (hnames : ∀ n ∈ names, IsName n) (hpass : d.Passable names)
    (hfind : d.find (fromRoot names) = .error cause) :
    ∃ above, above <+: names ∧ d.at? above = none := by
  by_contra hall
  have hthere : ∀ above, above <+: names → d.at? above = some .directory := by
    intro above habove
    rcases hat : d.at? above with _ | _ | content
    · exact absurd ⟨above, habove, hat⟩ hall
    · rfl
    · exact absurd hat (hpass.free above habove content)
  have hstands : d.Stands names := fun above habove _ => hthere above habove
  have hleads := (Disk.place_fromRoot_iff hnames).2 ⟨rfl, hpass.fits, hstands⟩
  have hfound := Disk.find_eq_ok_iff.2 ⟨hleads, hthere names (List.prefix_refl _)⟩
  rw [hfind] at hfound
  cases hfound

/-- A place that a path in normal form leads to is renewed whenever it can be made. -/
theorem isRenewed_of_absolute {d : Disk} (hd : d.IsTree) {path : String}
    (hpath : d.absolute path = path) (hmade : ((makePlace path).run.run d).1 = .ok ()) :
    d.IsRenewed path := by
  have hnames := Disk.isName_namesAt hd.placed path
  have hroot : fromRoot (d.namesAt path) = path := (Disk.absolute_eq hd.placed path).symm.trans hpath
  generalize d.namesAt path = names at hnames hroot
  subst hroot
  have hplace := Disk.namesAt_fromRoot d hnames
  cases hfind : d.find (fromRoot names) with
  | ok found =>
      rcases found with ⟨there, _ | content⟩
      · exact Or.inl (Disk.isDirectory_iff.2 ⟨there, hfind⟩)
      · -- a file at the place is refused
        unfold makePlace at hmade
        rw [Extracting.run_bind, Extracting.run_clearPlace, hfind] at hmade
        cases hmade
  | error cause =>
      have hok : (d.makePath (fromRoot names)).2 = .ok () := by
        rw [run_makePlace_of_find_error hfind] at hmade
        cases hresult : (d.makePath (fromRoot names)).2 with
        | error e => simp [hresult, Except.mapError] at hmade
        | ok _ => rfl
      have hpass := (Disk.makePath_fromRoot_iff hd.placed hnames).1 hok
      obtain ⟨above, habove, hnone⟩ := exists_absent_of_find_error hnames hpass hfind
      -- what is below a missing directory is missing in a tree
      have hlacks : d.Lacks names :=
        fun entry hentry hfront => hd.lacks hnone entry hentry (habove.trans hfront)
      have hne : names ≠ [] := by
        rintro rfl
        rw [List.prefix_nil.1 habove] at hnone
        cases hnone
      rw [Disk.IsRenewed, hplace]
      exact Or.inr ⟨Disk.isDirect_fromRoot hnames hne, hlacks⟩

/-- What entries bring to a bare root is what is there then. -/
theorem Laid.holds {root : List String} {wanted : List Wanted} {before after : Disk}
    (h : Laid root wanted before after) (hroot : before.at? root = some .directory)
    (hbare : before.IsBare root) : after.Holds root wanted where
  file names content hbelow := by
    have hnone : before.at? names ≠ some (.file content) := by
      by_cases hsame : names = root
      · simp [hsame, hroot]
      · simp [hbare names hbelow hsame]
    simp [h.file, hnone]
  directory names hbelow := by
    have hold : before.at? names = some .directory ↔ names = root := by
      by_cases hsame : names = root
      · simp [hsame, hroot]
      · simp [hbare names hbelow hsame, hsame]
    rw [h.directory, hold]

/-! ## Entries in another order -/

theorem distinct_perm {texts texts' : List String} (h : texts'.Perm texts) :
    (Text.distinct texts').Perm (Text.distinct texts) := by
  apply (List.perm_ext_iff_of_nodup (Text.nodup_distinct _) (Text.nodup_distinct _)).2
  intro s
  rw [Text.mem_distinct, Text.mem_distinct, h.mem_iff]

/-- The directory around a project does not depend on the order of the entries. -/
theorem wrapperOf_perm {names names' : List String} (h : names'.Perm names) :
    wrapperOf names' = wrapperOf names := by
  have hclean := (h.filter fun n => !n.isEmpty).map slashed
  unfold wrapperOf
  dsimp only
  generalize (names'.filter fun n => !n.isEmpty).map slashed = clean' at hclean ⊢
  generalize (names.filter fun n => !n.isEmpty).map slashed = clean at hclean ⊢
  have hany : ∀ p : String → Bool, clean'.any p = clean.any p := by
    intro p
    rw [Bool.eq_iff_iff]
    simp only [List.any_eq_true, hclean.mem_iff]
  have hfirsts := distinct_perm ((hclean.filter fun n =>
    !archiveMetadata.contains (firstPart n) && !Text.startsWith n ".").map firstPart)
  simp only [hany]
  -- one first part is one in any order
  generalize Text.distinct _ = firsts' at hfirsts ⊢
  generalize Text.distinct _ = firsts at hfirsts ⊢
  rcases firsts with _ | ⟨first, _ | ⟨second, rest⟩⟩
  · rw [List.perm_nil.1 hfirsts]
  · rw [List.perm_singleton.1 hfirsts]
  · have hlength := hfirsts.length_eq
    rcases firsts' with _ | ⟨first', _ | ⟨second', rest'⟩⟩
    · cases hlength
    · cases hlength
    · rfl

/-- The files that are wanted are those among the files. -/
theorem filesOf_wantedOf (wrapper : String) (excluded : List String)
    (entries : List Archive.Entry) :
    filesOf (wantedOf wrapper excluded entries) =
      wantedOf wrapper excluded (entries.filter fun e => !e.isDirectory) := by
  unfold filesOf wantedOf
  rw [List.filter_filterMap, List.filterMap_filter]
  apply List.filterMap_congr
  intro e _
  cases relativeName? wrapper e.name with
  | none => simp
  | some relative =>
      cases hdirectory : e.isDirectory <;> by_cases hsource : isSourceEntry relative e.isDirectory excluded <;>
        simp_all

section Reordered

variable {entries entries' : List Archive.Entry} (h : entries'.Perm entries) (excluded : List String)

include h

theorem wantedIn_perm : (wantedIn excluded entries').Perm (wantedIn excluded entries) := by
  unfold wantedIn
  rw [wrapperOf_perm (h.map _)]
  exact h.filterMap _

theorem filesOf_wantedIn_eq
    (hfiles : entries'.filter (fun e => !e.isDirectory) = entries.filter fun e => !e.isDirectory) :
    filesOf (wantedIn excluded entries') = filesOf (wantedIn excluded entries) := by
  unfold wantedIn
  rw [filesOf_wantedOf, filesOf_wantedOf, hfiles, wrapperOf_perm (h.map _)]

end Reordered

/-! ## The whole extraction -/

/-- An extraction succeeds if its place is made and all entries are extracted to it. -/
theorem value_extractFrom_eq_ok_iff {d d' : Disk} (hd : d.IsPlaced) {entries : List Archive.Entry}
    {path : String} {excluded : List String} {e : Extraction} :
    (extractFrom d (.ok entries) path excluded).value = (d', .ok e) ↔
      ((makePlace path).run.run d).1 = .ok () ∧ ∃ files,
        (extractEntries (fromRoot (d.namesAt path)) (wantedIn excluded entries)).run.run
          (d.replacedAt path) = (.ok files, d') ∧
        e = .ofFiles path (entries.length - (wantedIn excluded entries).length) files := by
  have habsolute : (d.replacedAt path).absolute path = fromRoot (d.namesAt path) := by
    rw [Disk.absolute_congr (workplace_replacedAt hd path), Disk.absolute_eq hd]
  rw [value_extractFrom_ok, Extracting.run_extractAll, habsolute]
  -- either step can fail, and both are needed
  cases ((makePlace path).run.run d).1 with
  | error error =>
      constructor
      · intro h
        cases h
      · rintro ⟨⟨⟩, -⟩
  | ok _ =>
      dsimp only
      rcases (extractEntries (fromRoot (d.namesAt path)) (wantedIn excluded entries)).run.run
        (d.replacedAt path) with ⟨error | files, after⟩
      · constructor
        · intro h
          cases h
        · rintro ⟨-, _, ⟨⟩, -⟩
      · constructor
        · intro h
          cases h
          exact ⟨rfl, files, rfl, rfl⟩
        · rintro ⟨-, _, ⟨⟩, rfl⟩
          rfl

section Told

variable (path : String) (skipped : Nat) (root : List String) (files : List Wanted)

theorem ofFiles_written :
    (Extraction.ofFiles path skipped
      (files.map fun w => (w.relative, fromRoot (w.names root)))).written =
        files.map fun w => fromRoot (w.names root) := by
  simp [Extraction.ofFiles]

/-- The controllers are those among the files whose relative names end like one. -/
theorem ofFiles_controllers :
    (Extraction.ofFiles path skipped
      (files.map fun w => (w.relative, fromRoot (w.names root)))).controllers =
        (files.filter fun w => Text.endsWith w.relative controllerEnding).map
          fun w => fromRoot (w.names root) := by
  simp [Extraction.ofFiles, List.filter_map, Function.comp_def]

end Told

theorem length_wantedIn_le (excluded : List String) (entries : List Archive.Entry) :
    (wantedIn excluded entries).length ≤ entries.length :=
  List.length_filterMap_le _ _

/-- Every wanted entry is a file or a directory. -/
theorem length_filesOf_add (wanted : List Wanted) :
    (filesOf wanted).length + (wanted.filter fun w => w.entry.isDirectory).length =
      wanted.length := by
  have hsplit := List.length_eq_length_filter_add (l := wanted) fun w => w.entry.isDirectory
  rw [filesOf, Nat.add_comm]
  exact hsplit.symm

section Success

variable {d : Disk} (hd : d.IsPlaced) {entries : List Archive.Entry} {path : String}
  {excluded : List String} {e : Extraction}
  (he : (extractFrom d (.ok entries) path excluded).value.2 = .ok e)

include hd he

/-- The files are told with their names and the places that they go to. -/
theorem eq_ofFiles_of_extractFrom :
    e = .ofFiles path (entries.length - (wantedIn excluded entries).length)
      ((filesOf (wantedIn excluded entries)).map
        fun w => (w.relative, fromRoot (w.names (d.namesAt path)))) := by
  obtain ⟨files, hok, hfields⟩ := exists_files_of_extractFrom he
  rw [hfields, (extractAll_brings hd path _).2 files hok]
  rfl

/-- The place was made, and then all entries were extracted to it. -/
theorem laid_of_extractFrom :
    ((makePlace path).run.run d).1 = .ok () ∧
      Laid (d.namesAt path) (wantedIn excluded entries) (d.replacedAt path)
        (extractFrom d (.ok entries) path excluded).value.1 := by
  have hplaced := Disk.isPlaced_congr (workplace_replacedAt hd path) hd
  obtain ⟨hmade, files, hrun, -⟩ := (value_extractFrom_eq_ok_iff hd).1 (Prod.ext rfl he)
  exact ⟨hmade, laid_extractEntries (Disk.isName_namesAt hd path) hplaced hrun⟩

/-- Where the path leads nowhere, what was there stays unless a file is put in its place. -/
theorem at?_of_extractFrom {cause : DiskCause} (hfind : d.find path = .error cause)
    {names : List String} {thing : DiskEntry} (hthere : d.at? names = some thing)
    (hnone : lastAt (d.namesAt path) (wantedIn excluded entries) names = none) :
    (extractFrom d (.ok entries) path excluded).value.1.at? names = some thing := by
  have hlaid := (laid_of_extractFrom hd he).2
  have hbefore := at?_replacedAt_of_find_error hd hfind hthere
  cases thing with
  | directory => exact (hlaid.directory names).2 (Or.inl hbefore)
  | file content => exact (hlaid.file names content).2 (Or.inr ⟨hnone, hbefore⟩)

/-- Another order of the directories changes neither the outcome nor the tree. -/
theorem extractFrom_rearranged {entries' : List Archive.Entry} (hperm : entries'.Perm entries)
    (hfiles : entries'.filter (fun e => !e.isDirectory) =
      entries.filter (fun e => !e.isDirectory)) :
    (extractFrom d (.ok entries') path excluded).value.2 = .ok e ∧
      Disk.Alike (extractFrom d (.ok entries) path excluded).value.1
        (extractFrom d (.ok entries') path excluded).value.1 := by
  have hplaced := Disk.isPlaced_congr (workplace_replacedAt hd path) hd
  have hwanted := wantedIn_perm hperm excluded
  obtain ⟨hmade, files, hrun, hfields⟩ := (value_extractFrom_eq_ok_iff hd).1 (Prod.ext rfl he)
  obtain ⟨after, hrun', halike⟩ := extractEntries_rearranged (Disk.isName_namesAt hd path) hplaced
    (fun w => hwanted.mem_iff) (filesOf_wantedIn_eq hperm excluded hfiles) hrun
  have hvalue : (extractFrom d (.ok entries') path excluded).value = (after, .ok e) := by
    apply (value_extractFrom_eq_ok_iff hd).2
    refine ⟨hmade, files, hrun', ?_⟩
    rw [hfields, hperm.length_eq, hwanted.length_eq]
  rw [hvalue]
  exact ⟨rfl, halike⟩

end Success

/--
When an extraction succeeds, the tree at its place is exactly the one that the wanted entries bring,
provided that the path tells where the old tree was: it led there, or there was none, or the path is
in normal form. Where it leads nowhere, all that was there stays, but for files that are overwritten.
The files that are told are the wanted ones in the order of the archive, and no entry is told twice or
forgotten. Directories may stand anywhere in the archive.
-/
theorem extractFrom_exact {d : Disk} (hd : d.IsPlaced)
    {opened : Except Archive.Fault (List Archive.Entry)} {path : String} {excluded : List String}
    {e : Extraction} (he : (extractFrom d opened path excluded).value.2 = .ok e) :
    ∃ entries, opened = .ok entries ∧
      let root := d.namesAt path
      let wanted := wantedIn excluded entries
      let files := filesOf wanted
      let after := (extractFrom d opened path excluded).value.1
      (d.IsRenewed path ∨ (d.IsTree ∧ d.absolute path = path) → after.Holds root wanted) ∧
      (∀ cause, d.find path = .error cause → ∀ names thing, d.at? names = some thing →
        lastAt root wanted names = none → after.at? names = some thing) ∧
      e.path = path ∧
      e.written = files.map (fun w => fromRoot (w.names root)) ∧
      e.controllers = (files.filter fun w => Text.endsWith w.relative controllerEnding).map
        (fun w => fromRoot (w.names root)) ∧
      e.skipped + files.length + (wanted.filter fun w => w.entry.isDirectory).length =
        entries.length ∧
      ∀ entries' : List Archive.Entry, entries'.Perm entries →
        entries'.filter (fun e => !e.isDirectory) = entries.filter (fun e => !e.isDirectory) →
        (extractFrom d (.ok entries') path excluded).value.2 = .ok e ∧
          after.Alike (extractFrom d (.ok entries') path excluded).value.1 := by
  cases opened with
  | error fault => cases he
  | ok entries =>
      refine ⟨entries, rfl, ?_⟩
      intro root wanted files after
      obtain ⟨hmade, hlaid⟩ := laid_of_extractFrom hd he
      have hfields := eq_ofFiles_of_extractFrom hd he
      refine ⟨?_, ?_, ?_, ?_, ?_, ?_, ?_⟩
      · intro hrenewed
        -- nothing was left at the place, so that all there is was brought
        have hbare : (d.replacedAt path).IsBare root := by
          apply isBare_replacedAt hd
          rcases hrenewed with hrenewed | ⟨htree, habsolute⟩
          · exact hrenewed
          · exact isRenewed_of_absolute htree habsolute hmade
        exact hlaid.holds (at?_replacedAt hd hmade) hbare
      · intro cause hfind names thing hthere hnone
        exact at?_of_extractFrom hd he hfind hthere hnone
      · rw [hfields]
        rfl
      · rw [hfields]
        exact ofFiles_written path _ root files
      · rw [hfields]
        exact ofFiles_controllers path _ root files
      · -- what is neither a file nor a directory that is wanted was skipped
        have hfew : wanted.length ≤ entries.length := length_wantedIn_le excluded entries
        have hall : files.length + _ = wanted.length := length_filesOf_add wanted
        have hskipped : e.skipped = entries.length - wanted.length := by
          rw [hfields]
          rfl
        omega
      · intro entries' hperm hfiles
        exact extractFrom_rearranged hd he hperm hfiles

/-- A disk with the tree of an earlier extraction. -/
def diskWithTree : Disk :=
  ⟨[(["old"], .directory), (["old", "a"], .file [1])], []⟩

/-- Two files for one place, and a directory between them. -/
def overwritingEntries : List Archive.Entry :=
  [⟨"src/a", fun _ => .ok [2]⟩, ⟨"src/b/", fun _ => .ok []⟩, ⟨"src/a", fun _ => .ok [3]⟩]

theorem extractFrom_exact_overwritingEntries :
    let straight := (extractFrom diskWithTree (.ok overwritingEntries) "/old" []).value
    let through := (extractFrom diskWithTree (.ok overwritingEntries) "/gone/../old" []).value
    ((∃ e, straight.2 = .ok e) ∧ straight.1.Holds ["old"] (wantedIn [] overwritingEntries)) ∧
      (∃ e, through.2 = .ok e) ∧ through.1.at? ["old", "a"] = some (.file [1]) := by
  have hplaced : diskWithTree.IsPlaced := by
    unfold Disk.IsPlaced
    decide
  have hsucceeds : ∀ path, (extractFrom diskWithTree (.ok overwritingEntries) path []).value.2.isOk =
      true → ∃ e, (extractFrom diskWithTree (.ok overwritingEntries) path []).value.2 = .ok e :=
    fun path => exists_eq_ok_of_isOk
  refine ⟨?_, ?_⟩
  · obtain ⟨e, he⟩ := hsucceeds "/old" (by decide +kernel)
    obtain ⟨_, ⟨⟩, hholds, -⟩ := extractFrom_exact hplaced he
    refine ⟨⟨e, he⟩, hholds (Or.inl (Or.inl ?_))⟩
    decide +kernel
  · obtain ⟨e, he⟩ := hsucceeds "/gone/../old" (by decide +kernel)
    obtain ⟨_, ⟨⟩, -, hstays, -⟩ := extractFrom_exact hplaced he
    refine ⟨⟨e, he⟩, hstays .missing (by decide +kernel) ["old", "a"] (.file [1]) (by decide +kernel) ?_⟩
    -- no entry brings a file there
    have hnone : (lastAt ["old"] (wantedIn [] overwritingEntries) ["old", "a"]).isNone = true := by
      decide +kernel
    exact Option.isNone_iff_eq_none.1 hnone

end RoleAudit
