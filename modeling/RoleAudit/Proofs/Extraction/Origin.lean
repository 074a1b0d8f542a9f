import RoleAudit.Proofs.Extraction.Containment
import RoleAudit.Proofs.Extraction.Renewal

/-!
# Where things at the place of an extraction come from

First the place of an extraction is replaced, then entries are extracted to it. So what is found
there in the end was there when the first entry was read, or an entry brought it:

- `makePlace`, `Disk.replacedAt`: replacing the place, and the disk before any entry is extracted;
- `Disk.IsBare`: nothing lies below some names;
- `isBare_replacedAt_of_found`, `isBare_replacedAt_of_lacks`: nothing is left of an old directory,
  and nothing appears where there was none;
- `Wanted.Brings`: what an entry makes below the root;
- `bringing`: the guarantee that nothing else appears there;
- `extractAll_brings`: what this says of the whole extraction.
-/

namespace RoleAudit

open RoleAudit.Path

/-! ## Bare places -/

namespace Disk

/-- There is nothing below some names. -/
def IsBare (d : Disk) (names : List String) : Prop :=
  ∀ other, names <+: other → other ≠ names → d.at? other = none

theorem ne_nil_of_below {names other : List String} (hbelow : names <+: other)
    (hne : other ≠ names) : other ≠ [] := by
  rintro rfl
  exact hne (List.prefix_nil.1 hbelow).symm

theorem isBare_emptied (d : Disk) (names : List String) : (d.emptied names).IsBare names := by
  intro other hbelow hne
  have hroot : ¬ other.isEmpty = true := by simpa using ne_nil_of_below hbelow hne
  have hfront : names.isPrefixOf other = true := List.isPrefixOf_iff_prefix.2 hbelow
  unfold emptied at?
  dsimp only
  rw [if_neg hroot, lookup_filter_names fun n => n == names || !names.isPrefixOf n]
  simp [hne, hfront]

theorem Lacks.isBare {d : Disk} {names : List String} (h : d.Lacks names) : d.IsBare names := by
  intro other hbelow hne
  have hother : d.Lacks other := fun entry hentry hfront => h entry hentry (hbelow.trans hfront)
  exact hother.at?_eq (ne_nil_of_below hbelow hne)

namespace IsBare

variable {d d' : Disk} {names : List String}

theorem put (h : d.IsBare names) (e : DiskEntry) : (d.put names e).IsBare names := by
  intro other hbelow hne
  rw [at?_put_of_ne d e hne]
  exact h other hbelow hne

/-- A place stays bare as long as no directory is made below it. -/
theorem of_grown {made : List String → Prop} (h : d.IsBare names) (hgrown : Grown made d d')
    (hmade : ∀ other, made other → names <+: other → other = names) : d'.IsBare names := by
  intro other hbelow hne
  have hconfined : Confined (fun _ => False) made d d' := hgrown.confined
  rcases hconfined.outside other id with hsame | ⟨hnew, -, -⟩
  · rw [hsame]
    exact h other hbelow hne
  · exact absurd (hmade other hnew hbelow) hne

end IsBare

end Disk

/-! ## Replacing the place -/

/-- Clear the place of an extraction and make it. -/
def makePlace (path : String) : Extracting Unit := do
  clearPlace path
  changing fun d => d.makePath path

/-- The disk when the place of a path is replaced, before any entry is extracted. -/
def Disk.replacedAt (d : Disk) (path : String) : Disk :=
  ((makePlace path).run.run d).2

/-- An extraction replaces its place; if this succeeds, entries are extracted. -/
theorem Extracting.run_extractAll (path : String) (wanted : List Wanted) (d : Disk) :
    (extractAll path wanted).run.run d =
      match ((makePlace path).run.run d).1 with
      | .ok _ => (extractEntries ((d.replacedAt path).absolute path) wanted).run.run
          (d.replacedAt path)
      | .error e => (.error e, d.replacedAt path) := by
  have hsteps : extractAll path wanted = (do
      makePlace path
      extractEntries ((← get).absolute path) wanted) := by
    rw [makePlace, bind_assoc]
    rfl
  unfold Disk.replacedAt
  rw [hsteps, run_bind]
  rcases (makePlace path).run.run d with ⟨e | _, replaced⟩
  · rfl
  · dsimp only
    rw [run_bind, run_get]

/-- An extraction that succeeds has replaced its place. -/
theorem Extracting.run_makePlace_of_extractAll {path : String} {wanted : List Wanted} {d : Disk}
    {files : List (String × String)} (h : ((extractAll path wanted).run.run d).1 = .ok files) :
    ((makePlace path).run.run d).1 = .ok () := by
  rw [run_extractAll] at h
  cases hresult : ((makePlace path).run.run d).1 with
  | error e =>
      rw [hresult] at h
      cases h
  | ok _ => rfl

theorem workplace_replacedAt {d : Disk} (hd : d.IsPlaced) (path : String) :
    (d.replacedAt path).workplace = d.workplace := by
  have hsteps : (contained d path).Of (makePlace path) fun _ => True := by
    apply (contained_clearPlace hd).bind
    intro _ _
    exact contained_makePlace hd
  exact (hsteps d rfl).1

/-- When the place was replaced, there is a directory. -/
theorem at?_replacedAt {d : Disk} (hd : d.IsPlaced) {path : String}
    (h : ((makePlace path).run.run d).1 = .ok ()) :
    (d.replacedAt path).at? (d.namesAt path) = some .directory := by
  have hclear : (contained d path).Of (clearPlace path) fun _ => True := contained_clearPlace hd
  have hcleared : ((clearPlace path).run.run d).2.workplace = d.workplace := (hclear d rfl).1
  unfold Disk.replacedAt
  unfold makePlace at h ⊢
  -- whatever was removed, a directory is made at the place afterwards
  rw [Extracting.run_bind] at h ⊢
  generalize (clearPlace path).run.run d = run at h hcleared ⊢
  rcases run with ⟨e | _, cleared⟩
  · cases h
  · dsimp only at h hcleared ⊢
    rw [Extracting.run_changing] at h ⊢
    dsimp only at h ⊢
    have hmade : (cleared.makePath path).2 = .ok () := by
      cases hresult : (cleared.makePath path).2 with
      | error e => simp [hresult, Except.mapError] at h
      | ok _ => rfl
    rw [← Disk.namesAt_congr hcleared path]
    exact Disk.at?_of_makePath (Disk.isPlaced_congr hcleared hd) hmade

/-- Nothing is left below an old directory that the path led to. -/
theorem isBare_replacedAt_of_found {d : Disk} (hd : d.IsPlaced) {path : String}
    {names : List String} (hfind : d.find path = .ok (names, .directory)) :
    (d.replacedAt path).IsBare names := by
  have hempty := d.isBare_emptied names
  unfold Disk.replacedAt makePlace
  rw [Extracting.run_bind, Extracting.run_clearPlace, hfind]
  dsimp only
  rcases d.removeDirectory_cases path names with ⟨cause, hstays⟩ |
    ⟨-, ⟨reached, hplace⟩, hremoved⟩
  · rw [hstays]
    exact hempty
  · rw [hremoved]
    dsimp only
    rw [Extracting.run_changing]
    dsimp only
    have hemptied : (d.emptied names).IsPlaced := hd
    have hplaced : ((d.emptied names).removeTree names).IsPlaced := hd
    have hlacks := Disk.lacks_removeTree (d.emptied names) names
    apply hlacks.isBare.of_grown (Disk.grown_makePath hplaced path)
    -- the path led through directories, and there were none below its place any more
    intro other hthrough hbelow
    have hreached : reached = names := by
      rw [Disk.namesAt_of_place hemptied hplace, Disk.namesAt_of_find hd hfind]
      rfl
    rcases Disk.at?_of_leadsThrough hemptied hplace hthrough with hsame | hdirectory
    · exact hsame.trans hreached
    · by_contra hne
      rw [hempty other hbelow hne] at hdirectory
      cases hdirectory

/-- Where there is nothing, a direct path makes its directory and nothing below it. -/
theorem isBare_replacedAt_of_lacks {d : Disk} (hd : d.IsPlaced) {path : String}
    (hdirect : d.IsDirect path) (hlacks : d.Lacks (d.namesAt path)) :
    (d.replacedAt path).IsBare (d.namesAt path) := by
  unfold Disk.replacedAt makePlace
  rw [Extracting.run_bind, run_clearPlace_of_isDirect hd hdirect (Or.inl hlacks),
    hlacks.removeTree_eq]
  dsimp only
  rw [Extracting.run_changing]
  rcases hdirect.makePath_renewed hd hlacks with ⟨rest, hrest, -, -, ⟨-, hmakes⟩ | ⟨e, hfails⟩⟩
  · rw [hmakes]
    exact hrest.isBare.put .directory
  · rw [hfails]
    exact hrest.isBare

/-! ## What entries bring -/

/-- The directory that is made for an entry: its own, or the one that holds its file. -/
def Wanted.directory (root : List String) (w : Wanted) : List String :=
  if w.entry.isDirectory then w.names root else (w.names root).dropLast

/-- An entry brings its directory and all directories above it, and its file. -/
inductive Wanted.Brings (root : List String) (w : Wanted) : List String → DiskEntry → Prop where
  | directory {names : List String} (h : names <+: w.directory root) :
      Wanted.Brings root w names .directory
  | file (content : Octets) (h : w.entry.isDirectory = false) :
      Wanted.Brings root w (w.names root) (.file content)

/-- At the root and below it there is only what was there before and what entries bring. -/
def bringing (before : Disk) (root : List String) (wanted : List Wanted) : Guarantee :=
  .ofInvariant fun d => d.workplace = before.workplace ∧
    ∀ names e, root <+: names → d.at? names = some e →
      before.at? names = some e ∨ ∃ w ∈ wanted, w.Brings root names e

section Bringing

variable {before : Disk} {root : List String} {wanted : List Wanted}

/-- Making a path brings the directories that it leads through. -/
theorem bringing_makePath (hbefore : before.IsPlaced) {w : Wanted} (hw : w ∈ wanted) {d : Disk}
    (hd : (bringing before root wanted).holds d) {path : String}
    (hthrough : ∀ names, d.LeadsThrough path names → names <+: w.directory root) :
    (bringing before root wanted).holds (d.makePath path).1 ∧
      (bringing before root wanted).relates d (d.makePath path).1 := by
  rcases hd with ⟨hworkplace, horigin⟩
  have hplaced := Disk.isPlaced_congr hworkplace hbefore
  have hconfined : Disk.Confined (fun _ => False) (d.LeadsThrough path) d (d.makePath path).1 :=
    Disk.confined_makePath hplaced path
  refine ⟨⟨hconfined.workplace.trans hworkplace, ?_⟩, trivial⟩
  intro names e hbelow hat
  rcases hconfined.outside names id with hsame | ⟨hway, -, hdirectory⟩
  · rw [hsame] at hat
    exact horigin names e hbelow hat
  · rw [hdirectory] at hat
    cases hat
    exact Or.inr ⟨w, hw, .directory (hthrough names hway)⟩

/-- Putting the file of an entry at its place brings just this file. -/
theorem bringing_put {w : Wanted} (hw : w ∈ wanted) (hfile : w.entry.isDirectory = false)
    {d : Disk} (hd : (bringing before root wanted).holds d) (content : Octets) :
    (bringing before root wanted).holds (d.put (w.names root) (.file content)) := by
  refine ⟨hd.1, fun names e hbelow hat => ?_⟩
  by_cases hnames : names = w.names root
  · subst hnames
    by_cases hroot : w.names root = []
    · -- nothing is ever written in place of the root of all
      left
      rw [hroot] at hat ⊢
      exact hat
    · rw [Disk.at?_put_self d _ hroot] at hat
      cases hat
      exact Or.inr ⟨w, hw, .file content hfile⟩
  · rw [Disk.at?_put_of_ne d _ hnames] at hat
    exact hd.2 names e hbelow hat

/-- Whatever is done for an entry appears where the entry brings it. -/
theorem bringing_allowsEntry (hbefore : before.IsPlaced) {w : Wanted} (hw : w ∈ wanted) :
    (bringing before root wanted).AllowsEntry root w where
  makeDirectory := by
    intro hdirectory _ d hd
    apply bringing_makePath hbefore hw hd
    intro names hthrough
    unfold Wanted.directory
    rw [if_pos hdirectory]
    exact Disk.prefix_of_leadsThrough_fromRoot (isName_names _) hthrough
  makeParent := by
    intro hfile _ d hd
    apply bringing_makePath hbefore hw hd
    intro names hthrough
    -- a file needs the directories above it, and no others are made for it
    have hnames : ∀ n ∈ w.names root, IsName n := isName_names _
    have hparts := parts_parent_fromRoot hnames
    have habsolute := isAbsolute_parent (isAbsolute_fromRoot (w.names root))
    have hall : ∀ n ∈ parts (parent (fromRoot (w.names root))), IsName n := by
      intro n hn
      rw [hparts] at hn
      exact hnames n (List.dropLast_subset _ hn)
    have habove := Disk.prefix_of_leadsThrough habsolute hall hthrough
    unfold Wanted.directory
    simpa [hfile, hparts] using habove
  write := by
    intro hfile _ d d' content hd hwrite
    have hplaced := Disk.isPlaced_congr hd.1 hbefore
    rcases Disk.write_eq_ok hplaced hwrite with ⟨-, rfl⟩
    rw [Disk.namesAt_fromRoot d (isName_names _)]
    exact ⟨bringing_put hw hfile hd content, trivial⟩

end Bringing

/--
Wherever an extraction ends, what is found at its place or below it was there when the place was
replaced, or an entry brought it. If the extraction succeeds, it tells where the files went.
-/
theorem extractAll_brings {d : Disk} (hd : d.IsPlaced) (path : String) (wanted : List Wanted) :
    (∀ names e, d.namesAt path <+: names →
      ((extractAll path wanted).run.run d).2.at? names = some e →
        (d.replacedAt path).at? names = some e ∨
          ∃ w ∈ wanted, w.Brings (d.namesAt path) names e) ∧
      ∀ files, ((extractAll path wanted).run.run d).1 = .ok files →
        files = (wanted.filter fun w => !w.entry.isDirectory).map
          fun w => (w.relative, fromRoot (w.names (d.namesAt path))) := by
  have hworkplace := workplace_replacedAt hd path
  have hplaced := Disk.isPlaced_congr hworkplace hd
  have habsolute : (d.replacedAt path).absolute path = fromRoot (d.namesAt path) := by
    rw [Disk.absolute_congr hworkplace, Disk.absolute_eq hd]
  have hallows : ∀ w ∈ wanted,
      (bringing (d.replacedAt path) (d.namesAt path) wanted).AllowsEntry (d.namesAt path) w :=
    fun w hw => bringing_allowsEntry hplaced hw
  have hentries := Guarantee.AllowsEntry.extractEntries (Disk.isName_namesAt hd path) hallows
    (d.replacedAt path) ⟨rfl, fun names e _ hat => Or.inl hat⟩
  -- if the place cannot be made nothing is extracted
  rw [Extracting.run_extractAll, habsolute]
  cases ((makePlace path).run.run d).1 with
  | error e =>
      refine ⟨fun names e _ hat => Or.inl hat, ?_⟩
      rintro files ⟨⟩
  | ok _ =>
      rcases hentries with ⟨⟨-, horigin⟩, -, hfiles⟩
      exact ⟨horigin, fun files hok => (hfiles files hok).1⟩

end RoleAudit
