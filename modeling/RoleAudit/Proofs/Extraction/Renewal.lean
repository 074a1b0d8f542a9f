import RoleAudit.Proofs.Disk.Renewal
import RoleAudit.Proofs.Extraction.Steps

/-!
# Extracting again

An extraction leaves a directory at its place, or nothing, also when it fails on the way. The next
one removes all of that before it writes anything, so that it does the same as the first one:

- `keeping`: directories that every step keeps;
- `withoutFile_extractAll`: no extraction leaves a file at its place;
- `refilling`: what the steps guarantee that fill a place;
- `Disk.Shared`: paths that lead to one place and not through it, by the same directories;
- `Renewable`: a disk as extractions to such paths leave it;
- `Disk.Shared.run_extractAll`, `Disk.Shared.renewable_fillPlace`: on all such disks an extraction
  does the same, and it leaves one of them.

A path that ends in a dot or comes back from below its place is not among them: a directory is not
removed through it.
-/

namespace RoleAudit

open RoleAudit.Path

/-! ## Filling a place -/

/-- A place whose directory is made is filled with entries that go to it or below it. -/
theorem Guarantee.AllowsBelow.fillPlace {g : Guarantee} {place : List String}
    (h : g.AllowsBelow place) {base d made : Disk} {path : String} (hbase : base.IsPlaced)
    (hnames : base.namesAt path = place) (hworkplace : made.workplace = base.workplace)
    (hmakes : d.makePath path = (made, .ok ())) (hmade : g.holds made) (wanted : List Wanted) :
    g.holds ((RoleAudit.fillPlace path wanted).run.run d).2 ∧
      g.relates made ((RoleAudit.fillPlace path wanted).run.run d).2 := by
  have hname : ∀ n ∈ place, IsName n := by
    rw [← hnames]
    exact Disk.isName_namesAt hbase path
  have habsolute : made.absolute path = fromRoot place := by
    rw [Disk.absolute_congr hworkplace, Disk.absolute_eq hbase, hnames]
  have hentries := h.extractEntries hname wanted made hmade
  rw [Extracting.run_fillPlace, hmakes]
  dsimp only
  rw [habsolute]
  exact ⟨hentries.1, hentries.2.1⟩

/-! ## Directories that stay -/

/-- From any disk with the same workplace, some names lead to directories. -/
def keeping (base : Disk) (kept : List String → Prop) : Guarantee :=
  .ofInvariant fun d =>
    d.workplace = base.workplace ∧ ∀ names, kept names → d.at? names = some .directory

/-- Neither a directory that is made nor a file that is written takes the place of a directory. -/
theorem keeping_allowsBelow {base : Disk} (hbase : base.IsPlaced) (kept : List String → Prop)
    (root : List String) : (keeping base kept).AllowsBelow root where
  makePath := by
    rintro d names left ⟨hworkplace, hkept⟩ - - - -
    have hplaced := Disk.isPlaced_congr hworkplace hbase
    have hgrown := Disk.grown_makePath hplaced left
    refine ⟨⟨hgrown.workplace.trans hworkplace, ?_⟩, trivial⟩
    intro n hn
    exact hgrown.at?_eq (hkept n hn)
  write := by
    rintro d d' names content ⟨hworkplace, hkept⟩ hnames - hwrite
    have hplaced := Disk.isPlaced_congr hworkplace hbase
    rcases Disk.write_eq_ok hplaced hwrite with ⟨hfree, rfl⟩
    refine ⟨⟨hworkplace, ?_⟩, trivial⟩
    intro n hn
    -- a file is not written in place of a directory
    have hne : n ≠ d.namesAt (fromRoot names) := by
      rintro rfl
      exact hfree (hkept _ hn)
    rw [Disk.at?_put_of_ne d _ hne, hkept n hn]

/-! ## No file at the place -/

/-- From any disk with the same workplace, there is no file at a place. -/
def withoutFile (base : Disk) (place : List String) : Guarantee :=
  .ofInvariant fun d =>
    d.workplace = base.workplace ∧ ∀ content, d.at? place ≠ some (.file content)

section WithoutFile

variable {base : Disk} {place : List String} {path : String} (hbase : base.IsPlaced)
  (hnames : base.namesAt path = place)

include hbase hnames

theorem withoutFile_clearPlace : (withoutFile base place).Of (clearPlace path) fun _ => True := by
  rintro d ⟨hworkplace, hfile⟩
  refine ⟨?_, trivial, fun _ _ => trivial⟩
  rcases Extracting.disk_clearPlace path d with hstays | ⟨names, hfind, hcleared⟩
  · rw [hstays]
    exact ⟨hworkplace, hfile⟩
  · have hplaced := Disk.isPlaced_congr hworkplace hbase
    have hsame : names = place := by
      rw [Disk.namesAt_of_find hplaced hfind, Disk.namesAt_congr hworkplace, hnames]
    subst hsame
    -- the directory itself is what it was, or it is gone
    rw [hcleared]
    rcases d.removeDirectory_cases path names with ⟨cause, hemptied⟩ | ⟨hne, -, hremoved⟩
    · have hat := (Disk.find_eq_ok_iff.1 hfind).2
      rw [hemptied]
      exact ⟨hworkplace, by simp [Disk.at?_emptied_self, hat]⟩
    · have hlacks := Disk.lacks_removeTree (d.emptied names) names
      rw [hremoved]
      exact ⟨hworkplace, by simp [hlacks.at?_eq hne]⟩

theorem withoutFile_fillPlace (wanted : List Wanted) :
    (withoutFile base place).Of (fillPlace path wanted) fun _ => True := by
  rintro d ⟨hworkplace, hfile⟩
  refine ⟨?_, trivial, fun _ _ => trivial⟩
  have hplaced := Disk.isPlaced_congr hworkplace hbase
  have hgrown := Disk.grown_makePath hplaced path
  have hdirectory := @Disk.at?_of_makePath d hplaced path
  rw [Disk.namesAt_congr hworkplace, hnames] at hdirectory
  rcases hmakes : d.makePath path with ⟨made, e | _⟩ <;> rw [hmakes] at hgrown hdirectory
  · rw [Extracting.run_fillPlace, hmakes]
    exact ⟨hgrown.workplace.trans hworkplace, hgrown.ne_file hfile⟩
  · -- the directory that was made stays, whatever the entries are
    have hmade : (keeping base (· = place)).holds made := by
      refine ⟨hgrown.workplace.trans hworkplace, ?_⟩
      rintro names rfl
      exact hdirectory rfl
    rcases (keeping_allowsBelow hbase (· = place) place).fillPlace hbase hnames hmade.1 hmakes hmade
      wanted with ⟨⟨hsame, hkept⟩, -⟩
    exact ⟨hsame, by simp [hkept place rfl]⟩

/-- Whatever an extraction does, it leaves no file at its place. -/
theorem withoutFile_extractAll (wanted : List Wanted) :
    (withoutFile base place).Of (extractAll path wanted) fun _ => True := by
  rw [extractAll_eq]
  apply (withoutFile_clearPlace hbase hnames).bind
  intro _ _
  exact withoutFile_fillPlace hbase hnames wanted

end WithoutFile

/-! ## A place that is filled -/

/-- Directories down to the place stay, and nothing changes but what is removed with the place. -/
def refilling (base : Disk) (place : List String) : Guarantee where
  holds := (keeping base (· <+: place)).holds
  relates d d' := d'.removeTree place = d.removeTree place
  refl _ := rfl
  trans _ _ _ h h' := h'.trans h

theorem refilling_allowsBelow {base : Disk} (hbase : base.IsPlaced) (place : List String) :
    (refilling base place).AllowsBelow place where
  makePath := by
    intro d names left hd hnames hbelow hleft hne
    have hkeeps := keeping_allowsBelow hbase (· <+: place) place
    refine ⟨(hkeeps.makePath hd hnames hbelow hleft hne).1, ?_⟩
    have hplaced := Disk.isPlaced_congr hd.1 hbase
    -- what is made begins the target, as the place does, and the directories above it are there
    have hgrown : Disk.Grown (place <+: ·) d (d.makePath left).1 := by
      apply (Disk.grown_makePath hplaced left).mono
      intro through hthrough habsent
      have hfront := Disk.prefix_of_leadsThrough_fromRoot hnames (hthrough.of_begins hleft hne)
      rcases List.prefix_or_prefix_of_prefix hfront hbelow with habove | hin
      · rw [hd.2 through habove] at habsent
        cases habsent
      · exact hin
    exact hgrown.removeTree_eq fun _ h => h
  write := by
    intro d d' names content hd hnames hbelow hwrite
    have hkeeps := keeping_allowsBelow hbase (· <+: place) place
    refine ⟨(hkeeps.write hd hnames hbelow hwrite).1, ?_⟩
    rcases Disk.write_eq_ok (Disk.isPlaced_congr hd.1 hbase) hwrite with ⟨-, rfl⟩
    rw [Disk.namesAt_fromRoot d hnames]
    exact Disk.removeTree_put d _ hbelow

/-- A place is filled if its directory was made, and the rest stays as it was. -/
theorem refilling_fillPlace {rest d : Disk} {place : List String} {path : String}
    (hrest : rest.IsPlaced) (hnames : rest.namesAt path = place) (hne : place ≠ [])
    (hlacks : rest.Lacks place) (hstands : rest.Stands place)
    (hmakes : d.makePath path = (rest.put place .directory, .ok ())) (wanted : List Wanted) :
    let after := ((fillPlace path wanted).run.run d).2
    (refilling rest place).holds after ∧ after.removeTree place = rest := by
  have hmade : (refilling rest place).holds (rest.put place .directory) := by
    refine ⟨rfl, ?_⟩
    intro above habove
    by_cases hsame : above = place
    · rw [hsame, Disk.at?_put_self rest _ hne]
    · rw [Disk.at?_put_of_ne rest _ hsame, hstands above habove hsame]
  have hremoved := Disk.removeTree_put rest .directory (List.prefix_refl place)
  rcases (refilling_allowsBelow hrest place).fillPlace hrest hnames hmade.1 hmakes hmade wanted with
    ⟨hkept, hsame⟩
  refine ⟨hkept, ?_⟩
  rw [hsame, hremoved, hlacks.removeTree_eq]

/-- What a path leads to before its place is filled, it leads to afterwards. -/
theorem find_of_refilling {rest d : Disk} {place : List String} (hrest : rest.IsPlaced)
    (hd : (refilling rest place).holds d) (hremoved : d.removeTree place = rest) {path : String}
    (hdirect : rest.IsDirect path) (hnames : rest.namesAt path = place)
    (hplace : rest.place (Disk.bare path) = .ok place) :
    d.find path = .ok (place, .directory) := by
  -- outside the place both disks are the same, and the way to the place leads outside
  have houtside : ∀ names, ¬ rest.namesAt path <+: names → d.at? names = rest.at? names := by
    intro names hout
    rw [hnames] at hout
    rw [← hremoved, Disk.at?_removeTree d hout]
  have hbare := hdirect.place_bare_congr hrest hd.1 houtside hplace
  have hdirectory := hd.2 place (List.prefix_refl place)
  exact Disk.find_eq_ok_iff.2 ⟨Disk.place_of_bare hbare hdirectory, hdirectory⟩

/-! ## Paths to one place -/

/--
Paths lead to one place, and none of them leads through it. Where there is nothing at the place,
they make the same directories on the way to it.
-/
structure Disk.Shared (d : Disk) (place : List String) (paths : List String) : Prop where
  names : ∀ path ∈ paths, d.namesAt path = place
  direct : ∀ path ∈ paths, d.IsDirect path
  leads : d.at? place = some .directory → ∀ path ∈ paths, d.isDirectory path = true
  way : ∀ path ∈ paths, ∀ other ∈ paths,
    ((d.removeTree place).makePath path).1 = ((d.removeTree place).makePath other).1

/-- One path shares its place with itself. -/
theorem Disk.IsDirect.shared {d : Disk} {path : String} (h : d.IsDirect path)
    (hleads : d.at? (d.namesAt path) = some .directory → d.isDirectory path = true)
    {paths : List String} (hpaths : ∀ other ∈ paths, other = path) :
    d.Shared (d.namesAt path) paths where
  names other hother := by rw [hpaths other hother]
  direct other hother := by rwa [hpaths other hother]
  leads hdirectory other hother := by
    rw [hpaths other hother]
    exact hleads hdirectory
  way other hother other' hother' := by rw [hpaths other hother, hpaths other' hother']

/-- What is beside a place when a path to it was made where nothing was. -/
def Disk.beside (d : Disk) (place : List String) (path : String) : Disk :=
  ((d.removeTree place).makePath path).1.removeTree place

namespace Disk.Shared

variable {d : Disk} {place paths : List String} (hd : d.IsTree) (h : d.Shared place paths)

include hd h

/-- The way to the place starts in a directory, also when there is nothing at the place. -/
theorem stands_start {path : String} (hpath : path ∈ paths) :
    (d.removeTree place).Stands (d.start path) := by
  apply (hd.stands_start path).congr
  intro above habove _ hdirectory
  have hout : ¬ place <+: above := by
    rw [← h.names path hpath]
    exact fun hin => (h.direct path hpath).not_prefix_start (hin.trans habove)
  rw [at?_removeTree d hout, hdirectory]

/-- Where nothing is at the place, a path to it is made, or it fails before the place. -/
theorem makePath_cases {path : String} (hpath : path ∈ paths) :
    (d.beside place path).workplace = d.workplace ∧
      (d.beside place path).makePath path = (d.removeTree place).makePath path ∧
      (((d.beside place path).Stands place ∧
          (d.beside place path).place (bare path) = .ok place ∧
          (d.removeTree place).makePath path = ((d.beside place path).put place .directory, .ok ())) ∨
        ∃ e, (d.removeTree place).makePath path = (d.beside place path, .error e)) := by
  have hnames : (d.removeTree place).namesAt path = place := h.names path hpath
  have hdirect : (d.removeTree place).IsDirect path := h.direct path hpath
  have hlacks := lacks_removeTree d place
  have hrenewed := hdirect.makePath_renewed hd.placed
  rw [hnames] at hrenewed
  -- what is beside the place is the disk before the last step
  rcases hrenewed hlacks with ⟨rest, hrest, hgrown, hagain, ⟨hplace, hmakes⟩ | ⟨e, hfails⟩⟩
  · have hbeside : d.beside place path = rest := by
      rw [beside, hmakes]
      exact (removeTree_put rest .directory (List.prefix_refl place)).trans hrest.removeTree_eq
    have hstands : rest.Stands (rest.start (bare path)) := by
      rw [start_congr hgrown.workplace, start_eq_of_begins _ (begins_bare path) hdirect.bare_ne_empty]
      exact (h.stands_start hd hpath).congr fun above _ _ hdirectory => hgrown.at?_eq hdirectory
    rw [hbeside]
    exact ⟨hgrown.workplace, hagain, Or.inl ⟨hstands.place hplace, hplace, hmakes⟩⟩
  · have hbeside : d.beside place path = rest := by
      rw [beside, hfails]
      exact hrest.removeTree_eq
    rw [hbeside]
    exact ⟨hgrown.workplace, hagain, Or.inr ⟨e, hfails⟩⟩

omit hd in
theorem ne_nil {path : String} (hpath : path ∈ paths) : place ≠ [] := by
  rw [← h.names path hpath]
  exact (h.direct path hpath).namesAt_ne_nil

omit hd in
theorem beside_eq {path other : String} (hpath : path ∈ paths) (hother : other ∈ paths) :
    d.beside place other = d.beside place path := by
  rw [beside, beside, h.way other hother path hpath]

end Disk.Shared

/-! ## Disks that extractions leave -/

/-- The place of a direct path is cleared as a whole. -/
theorem run_clearPlace_of_isDirect {d : Disk} {path : String} (hd : d.IsPlaced)
    (hdirect : d.IsDirect path)
    (hready : d.Lacks (d.namesAt path) ∨ d.find path = .ok (d.namesAt path, .directory)) :
    (clearPlace path).run.run d = (.ok (), d.removeTree (d.namesAt path)) := by
  rw [Extracting.run_clearPlace]
  rcases hready with hlacks | hfind
  · rw [hlacks.removeTree_eq]
    cases hfind : d.find path with
    | error cause => rfl
    | ok found =>
        -- what the path leads to would be at its place
        have hat := (Disk.find_eq_ok_iff.1 hfind).2
        rw [Disk.namesAt_of_find hd hfind, hlacks.at?_eq hdirect.namesAt_ne_nil] at hat
        cases hat
  · simp [hfind, hdirect.removeDirectory_eq hd hfind]

/-- A disk that extractions to a shared place may leave, or find at first. -/
structure Renewable (base : Disk) (place paths : List String) (d : Disk) : Prop where
  workplace : d.workplace = base.workplace
  ready : d.Lacks place ∨ ∀ path ∈ paths, d.find path = .ok (place, .directory)
  /-- Where nothing is at the place, every path is made as it is on the first disk. -/
  again : ∀ path ∈ paths,
    (d.removeTree place).makePath path = (base.removeTree place).makePath path

theorem renewable_removeTree (base : Disk) (place paths : List String) :
    Renewable base place paths (base.removeTree place) where
  workplace := rfl
  ready := Or.inl (Disk.lacks_removeTree base place)
  again _ _ := by rw [(Disk.lacks_removeTree base place).removeTree_eq]

namespace Disk.Shared

variable {base : Disk} {place paths : List String} (hbase : base.IsTree)
  (h : base.Shared place paths)

include hbase h

/-- A disk with a directory at the place, or nothing, is as extractions leave it. -/
theorem renewable_self (hfile : ∀ content, base.at? place ≠ some (.file content)) :
    Renewable base place paths base where
  workplace := rfl
  ready := by
    cases hat : base.at? place with
    | none => exact Or.inl (hbase.lacks hat)
    | some e =>
        cases e with
        | file content => exact absurd hat (hfile content)
        | directory =>
            right
            intro path hpath
            rcases isDirectory_iff.1 (h.leads hat path hpath) with ⟨names, hfind⟩
            rw [hfind, namesAt_of_find hbase.placed hfind, h.names path hpath]
  again _ _ := rfl

/-- On every disk that extractions leave, the place is filled as if nothing were there. -/
theorem run_extractAll {d : Disk} (hd : Renewable base place paths d) {path : String}
    (hpath : path ∈ paths) (wanted : List Wanted) :
    (extractAll path wanted).run.run d =
      (fillPlace path wanted).run.run (base.removeTree place) := by
  have hplaced := isPlaced_congr hd.workplace hbase.placed
  have hdirect := isDirect_congr hd.workplace (h.direct path hpath)
  have hnames : d.namesAt path = place := by
    rw [namesAt_congr hd.workplace, h.names path hpath]
  have hclear := run_clearPlace_of_isDirect hplaced hdirect
  rw [hnames] at hclear
  rw [extractAll_eq, Extracting.run_bind, hclear (hd.ready.imp id fun hfind => hfind path hpath)]
  dsimp only
  rw [Extracting.run_fillPlace, Extracting.run_fillPlace, hd.again path hpath]

/-- What is beside the place is found again when the place is removed and made. -/
theorem makePath_of_removeTree {d : Disk} {path : String} (hpath : path ∈ paths)
    (hrest : d.removeTree place = base.beside place path) {other : String} (hother : other ∈ paths) :
    (d.removeTree place).makePath other = (base.removeTree place).makePath other := by
  rw [hrest, ← h.beside_eq hpath hother]
  exact (h.makePath_cases hbase hother).2.1

/-- If one path can be made, all others lead to its place. -/
theorem place_of_makePath {path : String} (hpath : path ∈ paths)
    (hmakes : (base.removeTree place).makePath path =
      ((base.beside place path).put place .directory, .ok ()))
    {other : String} (hother : other ∈ paths) :
    (base.beside place path).place (bare other) = .ok place := by
  rcases h.makePath_cases hbase hother with ⟨-, -, ⟨-, hplace, -⟩ | ⟨e, hfails⟩⟩
  · rwa [← h.beside_eq hpath hother]
  · -- both make the same, but only one of them makes a directory at the place
    exfalso
    have hway := h.way path hpath other hother
    rw [hmakes, hfails, h.beside_eq hpath hother] at hway
    dsimp only at hway
    have hne := h.ne_nil hpath
    have hlacks : (base.beside place path).Lacks place := lacks_removeTree _ place
    have hdirectory := at?_put_self (base.beside place path) .directory hne
    rw [hway, hlacks.at?_eq hne] at hdirectory
    cases hdirectory

/-- An extraction leaves a disk on which all others find what they would find without it. -/
theorem renewable_fillPlace {path : String} (hpath : path ∈ paths) (wanted : List Wanted) :
    Renewable base place paths ((fillPlace path wanted).run.run (base.removeTree place)).2 := by
  have hlacks : (base.beside place path).Lacks place := lacks_removeTree _ place
  rcases h.makePath_cases hbase hpath with
    ⟨hworkplace, -, ⟨hstands, -, hmakes⟩ | ⟨e, hfails⟩⟩
  · -- the place is made, and the entries stay below it
    have hplaced := isPlaced_congr hworkplace hbase.placed
    have hnames : ∀ other ∈ paths, (base.beside place path).namesAt other = place := by
      intro other hother
      rw [namesAt_congr hworkplace, h.names other hother]
    rcases refilling_fillPlace hplaced (hnames path hpath) (h.ne_nil hpath) hlacks hstands hmakes wanted
      with ⟨hkept, hrest⟩
    refine ⟨hkept.1.trans hworkplace, Or.inr ?_, ?_⟩
    · intro other hother
      have hdirect := isDirect_congr hworkplace (h.direct other hother)
      exact find_of_refilling hplaced hkept hrest hdirect (hnames other hother)
        (h.place_of_makePath hbase hpath hmakes hother)
    · intro other hother
      exact h.makePath_of_removeTree hbase hpath hrest hother
  · -- the place is not made, and still there is nothing
    rw [Extracting.run_fillPlace, hfails]
    dsimp only
    refine ⟨hworkplace, Or.inl hlacks, ?_⟩
    intro other hother
    exact h.makePath_of_removeTree hbase hpath hlacks.removeTree_eq hother

end Disk.Shared

end RoleAudit
