import RoleAudit.Proofs.Disk.Changes
import RoleAudit.Proofs.Extraction.Steps

/-!
# What an extraction leaves alone

An extraction takes place at the names that its path is written for. Whatever the entries of the
archive are called, and wherever it fails, the rest of the disk stays as it is:

- `Disk.IsOnWay`: the directories that may be made outside;
- `contained`: what every step guarantees: it changes nothing else;
- `contained_allowsBelow`, `contained_extractAll`: it is guaranteed for entries that go to the place
  of extraction or below it, and along the whole extraction;
- `extractFrom_contained`: what this says of the extraction of an archive.
-/

namespace RoleAudit

open RoleAudit.Path

/-- A directory that lies above the place of a path, or that the path leads through. -/
def Disk.IsOnWay (d : Disk) (path : String) (names : List String) : Prop :=
  names <+: d.namesAt path ∨ d.LeadsThrough path names

/-! ## Contained steps -/

/--
From any disk with the same workplace, nothing changes outside the place of the path but for new
directories on the way.
-/
def contained (base : Disk) (path : String) : Guarantee where
  holds d := d.workplace = base.workplace
  relates := Disk.Confined (base.namesAt path <+: ·) (base.IsOnWay path)
  refl := Disk.Confined.refl
  trans _ _ _ h h' := h.trans h'

/-- A confined change is a contained one. -/
theorem contained_of_confined {base d d' : Disk} {path : String}
    (hd : d.workplace = base.workplace)
    (h : Disk.Confined (base.namesAt path <+: ·) (base.IsOnWay path) d d') :
    (contained base path).holds d' ∧ (contained base path).relates d d' :=
  ⟨h.workplace.trans hd, h⟩

/-! ## The steps of an extraction -/

section Extraction

variable {base : Disk} {path : String}

/-- Making a directory below the place makes nothing outside it but what is on the way. -/
theorem confined_makePath_below {d : Disk} (hd : d.IsPlaced) {left : String}
    {names : List String} (hnames : ∀ n ∈ names, IsName n) (hroot : base.namesAt path <+: names)
    (hleft : Begins left (fromRoot names)) (hne : left ≠ "") :
    Disk.Confined (base.namesAt path <+: ·) (base.IsOnWay path) d (d.makePath left).1 := by
  refine (Disk.confined_makePath hd left).mono (fun _ h => h) fun through hthrough => ?_
  have hfront : through <+: names :=
    Disk.prefix_of_leadsThrough_fromRoot hnames (hthrough.of_begins hleft hne)
  -- both begin the names of the target, so one of them begins the other
  rcases List.prefix_or_prefix_of_prefix hfront hroot with habove | hbelow
  · exact Or.inr (Or.inl habove)
  · exact Or.inl hbelow

theorem contained_clearPlace (hbase : base.IsPlaced) :
    (contained base path).Of (clearPlace path) fun _ => True := by
  intro d hd
  have hconfined : Disk.Confined (base.namesAt path <+: ·) (base.IsOnWay path) d
      ((clearPlace path).run.run d).2 := by
    rcases Extracting.disk_clearPlace path d with hstays | ⟨names, hfind, hcleared⟩
    · rw [hstays]
      exact Disk.Confined.refl d
    · have hnames : names = base.namesAt path := by
        rw [Disk.namesAt_of_find (Disk.isPlaced_congr hd hbase) hfind, Disk.namesAt_congr hd]
      rw [hcleared]
      exact Disk.confined_removeDirectory d path fun other hother => hnames ▸ hother
  exact ⟨hconfined.workplace.trans hd, hconfined, fun _ _ => trivial⟩

theorem contained_makePlace (hbase : base.IsPlaced) :
    (contained base path).Of (changing fun d => d.makePath path) fun _ => True := by
  apply Guarantee.Of.changing
  intro d hd
  apply contained_of_confined hd
  apply (Disk.confined_makePath (Disk.isPlaced_congr hd hbase) path).mono (fun _ h => h)
  exact fun names h => Or.inr (Or.inr ((Disk.leadsThrough_congr hd path names).1 h))

/-- Entries that go to the place or below it are contained. -/
theorem contained_allowsBelow (hbase : base.IsPlaced) :
    (contained base path).AllowsBelow (base.namesAt path) where
  makePath hd hnames hroot hleft hne :=
    contained_of_confined hd
      (confined_makePath_below (Disk.isPlaced_congr hd hbase) hnames hroot hleft hne)
  write hd hnames hroot hact := by
    apply contained_of_confined hd
    apply Disk.confined_write (Disk.isPlaced_congr hd hbase) hact
    rwa [Disk.namesAt_fromRoot _ hnames]

/-- An extraction that succeeds has put all its entries at the place or below it. -/
theorem contained_extractAll (hbase : base.IsPlaced) (wanted : List Wanted) :
    (contained base path).Of (extractAll path wanted) fun _ => ∀ w ∈ wanted,
      base.namesAt path <+: Path.names (join (base.absolute path) w.relative) := by
  apply (contained_clearPlace hbase).bind
  intro _ _
  apply (contained_makePlace hbase).bind
  intro _ _
  apply Guarantee.Of.get_bind
  intro d hd
  dsimp only
  rw [Disk.absolute_congr hd, Disk.absolute_eq hbase]
  exact (contained_allowsBelow hbase).extractEntries (Disk.isName_namesAt hbase path) wanted

end Extraction

/-! ## The extraction of an archive -/

theorem mem_wantedOf {wrapper relative : String} {excluded : List String}
    {entries : List Archive.Entry} {e : Archive.Entry} (he : e ∈ entries)
    (hrelative : relativeName? wrapper e.name = some relative)
    (hsource : isSourceEntry relative e.isDirectory excluded = true) :
    ⟨relative, e⟩ ∈ wantedOf wrapper excluded entries := by
  refine List.mem_filterMap.2 ⟨e, he, ?_⟩
  rw [hrelative]
  dsimp only
  rw [if_pos hsource]

/-- The disk and the outcome of an extraction are those of its steps. -/
theorem value_extractFrom (d : Disk) (entries : List Archive.Entry) (path : String)
    (excluded : List String) :
    let run := (extractAll path (wantedOf (wrapperOf (entries.map (·.name))) excluded
      entries)).run.run d
    (extractFrom d (.ok entries) path excluded).value.1 = run.2 ∧
      ∀ e, (extractFrom d (.ok entries) path excluded).value.2 = .ok e →
        ∃ files, run.1 = .ok files := by
  intro run
  refine ⟨by rw [value_extractFrom_ok]; rfl, ?_⟩
  intro e he
  rcases exists_files_of_extractFrom he with ⟨files, hok, -⟩
  exact ⟨files, hok⟩

/--
Whatever an archive holds, and wherever its extraction ends, nothing outside the place of extraction
is made, overwritten or removed, but for new directories above the place or on the way to it. If an
entry that belongs to the sources would go outside, the extraction fails.
-/
theorem extractFrom_contained (d : Disk) (hd : d.IsPlaced)
    (opened : Except Archive.Fault (List Archive.Entry)) (path : String)
    (excluded : List String) :
    let after := (extractFrom d opened path excluded).value
    (∀ names, ¬ d.namesAt path <+: names →
      after.1.at? names = d.at? names ∨
        (d.IsOnWay path names ∧ d.at? names = none ∧ after.1.at? names = some .directory)) ∧
    ∀ entries, opened = .ok entries → ∀ e ∈ entries, ∀ relative,
      relativeName? (wrapperOf (entries.map (·.name))) e.name = some relative →
      isSourceEntry relative e.isDirectory excluded = true →
      ¬ d.namesAt path <+: Path.names (join (d.absolute path) relative) →
      ∃ error, after.2 = .error error := by
  dsimp only
  cases opened with
  | error fault =>
      refine ⟨fun names _ => Or.inl rfl, fun entries hentries => ?_⟩
      cases hentries
  | ok entries =>
      rcases value_extractFrom d entries path excluded with ⟨hdisk, houtcome⟩
      have hsteps : (contained d path).Of (extractAll path
          (wantedOf (wrapperOf (entries.map (·.name))) excluded entries)) _ :=
        contained_extractAll hd _
      rcases hsteps d rfl with ⟨-, hconfined, hfact⟩
      refine ⟨fun names hnames => ?_, ?_⟩
      · rw [hdisk]
        exact hconfined.outside names hnames
      · rintro _ ⟨⟩ e he relative hrelative hsource houtside
        -- had it succeeded, this entry would lie inside as all others
        cases hresult : (extractFrom d (.ok entries) path excluded).value.2 with
        | error error => exact ⟨error, rfl⟩
        | ok extraction =>
            rcases houtcome extraction hresult with ⟨files, hfiles⟩
            exact absurd (hfact files hfiles _ (mem_wantedOf he hrelative hsource))
              houtside

/-- A disk with a file beside the place of extraction. -/
def diskWithFile : Disk :=
  ⟨[(["kept"], .file [1])], []⟩

/-- An entry that climbs out of the place of extraction to this file. -/
def climbingEntry : Archive.Entry :=
  ⟨"src/../../kept", fun _ => .ok [2]⟩

theorem extractFrom_contained_climbingEntry :
    (extractFrom diskWithFile (.ok [climbingEntry]) "/place" []).value.1.at? ["kept"] =
        some (.file [1]) ∧
      ∃ error, (extractFrom diskWithFile (.ok [climbingEntry]) "/place" []).value.2 =
        .error error := by
  have hplaced : diskWithFile.IsPlaced := by
    unfold Disk.IsPlaced
    decide
  rcases extractFrom_contained diskWithFile hplaced (.ok [climbingEntry]) "/place" [] with
    ⟨houtside, hescapes⟩
  refine ⟨?_, hescapes [climbingEntry] rfl climbingEntry (by simp) "src/../../kept"
    (by decide +kernel) (by decide +kernel) (by decide +kernel)⟩
  -- the file was there before, so it is no new directory
  rcases houtside ["kept"] (by decide +kernel) with hsame | ⟨-, habsent, -⟩
  · rw [hsame]
    decide +kernel
  · exact absurd habsent (by decide +kernel)

end RoleAudit
