import Mathlib.Data.List.Nodup
import Mathlib.Data.List.Perm.Subperm
import RoleAudit.Proofs.Disk.Making
import RoleAudit.Proofs.Path.Normal
import RoleAudit.Proofs.Path.Routes
import RoleAudit.Proofs.Tables
import RoleAudit.SourceFiles

/-!
# The walk through source files

Which files a walk through a project gives, and in which order, however the disk lists its things:

- `Disk.IsListed`: a disk as it can be, with each thing listed once; `Disk.Relisted`: the same
  things in another order;
- `FileWay`: a file below a directory by the names on the way to it; `FileWay.Before`: the order in
  which a walk meets files, with `FileWay.eq_of_pairwise_before`: only one list of files is in it;
- `Disk.HasSource`: the source files that a walk is meant to give;
- `waysFrom`: the walk by names instead of paths, with `mem_waysFrom` and `pairwise_waysFrom`;
  `exists_names_of_mem_sourceFiles`: what it gives lies below its path;
- `sourceFiles_walk`: the walk gives all of these files in order, each once, from any listing, and a
  search gives the first of them whose names pass its test.
-/

namespace RoleAudit

open RoleAudit.Path

/-! ## Listings of a disk -/

namespace Disk

/-- A disk as it can be: a tree of things with names, each of them listed once. -/
structure IsListed (d : Disk) : Prop where
  tree : d.IsTree
  named : ∀ entry ∈ d.entries, ∀ n ∈ entry.1, IsName n
  once : (d.entries.map (·.1)).Nodup

/-- Another disk has the same things and lists them in any order. -/
structure Relisted (d d' : Disk) : Prop where
  workplace : d'.workplace = d.workplace
  entries : d'.entries.Perm d.entries

theorem at?_eq_some_iff_mem {d : Disk} (h : (d.entries.map (·.1)).Nodup) {names : List String}
    (hne : names ≠ []) {e : DiskEntry} : d.at? names = some e ↔ (names, e) ∈ d.entries := by
  unfold at?
  rw [if_neg (by simpa using hne), lookup_eq_some_iff_mem h]

namespace Relisted

variable {d d' : Disk} (h : Relisted d d')

include h

theorem once (hd : d.IsListed) : (d'.entries.map (·.1)).Nodup :=
  (h.entries.map _).nodup_iff.2 hd.once

/-- The order of a listing shows nowhere on the disk. -/
theorem alike (hd : d.IsListed) : Alike d d' := by
  refine ⟨h.workplace, funext fun names => ?_⟩
  by_cases hroot : names = []
  · subst hroot
    rfl
  · refine Option.ext fun e => ?_
    rw [at?_eq_some_iff_mem (h.once hd) hroot, at?_eq_some_iff_mem hd.once hroot,
      h.entries.mem_iff]

theorem isListed (hd : d.IsListed) : d'.IsListed := by
  have hat := (h.alike hd).at?_eq
  refine ⟨⟨isPlaced_congr h.workplace hd.tree.placed, ?_, fun entry hentry => ?_⟩,
    fun entry hentry => hd.named entry (h.entries.mem_iff.1 hentry), h.once hd⟩
  · rw [hat, h.workplace]
    exact hd.tree.workplace
  · refine (hd.tree.entries entry (h.entries.mem_iff.1 hentry)).congr fun above _ _ habove => ?_
    rw [hat, habove]

end Relisted

/-- What is in a directory is listed there under its last name. -/
theorem mem_list_iff {d : Disk} {names : List String} {name : String} {e : DiskEntry} :
    (name, e) ∈ d.list names ↔ (names ++ [name], e) ∈ d.entries := by
  unfold list
  rw [List.mem_filterMap]
  constructor
  · rintro ⟨⟨n, e'⟩, hentry, hlast⟩
    dsimp only at hlast
    split at hlast
    · rename_i last hget
      split at hlast
      · -- a path is its last name behind the names before
        rename_i hfront
        cases hlast
        rw [← eq_of_beq hfront, List.dropLast_append_getLast? name hget]
        exact hentry
      · cases hlast
    · cases hlast
  · intro hentry
    exact ⟨_, hentry, by simp⟩

/-- What is read from items stands for some of the keys of the items, in their order. -/
theorem map_filterMap_sublist {α β γ : Type} {read : α → Option β} {key : α → γ} {back : β → γ}
    (h : ∀ a b, read a = some b → back b = key a) (items : List α) :
    ((items.filterMap read).map back).Sublist (items.map key) := by
  induction items with
  | nil => exact List.Sublist.slnil
  | cons a rest ih =>
      cases hread : read a with
      | none =>
          rw [List.filterMap_cons_none hread]
          exact ih.cons (key a)
      | some b =>
          rw [List.filterMap_cons_some hread, List.map_cons, List.map_cons, h a b hread]
          exact ih.cons_cons (key a)

/-- Some of the names in a directory are distinct, since nothing is listed twice. -/
theorem nodup_filterMap_list {d : Disk} (h : (d.entries.map (·.1)).Nodup) (names : List String)
    {read : String × DiskEntry → Option String}
    (hread : ∀ x name, read x = some name → name = x.1) :
    ((d.list names).filterMap read).Nodup := by
  -- with the directory in front, the names are paths, each of which has one entry
  have hnames : (((d.list names).filterMap read).map fun name => names ++ [name]).Sublist
      ((d.list names).map fun x => names ++ [x.1]) :=
    map_filterMap_sublist (fun x name hx => by rw [hread x name hx]) _
  have hentries : ((d.list names).map fun x => names ++ [x.1]).Sublist (d.entries.map (·.1)) := by
    refine map_filterMap_sublist ?_ d.entries
    rintro ⟨n, e⟩ x hx
    dsimp only at hx
    split at hx
    · rename_i last hget
      split at hx
      · rename_i hfront
        cases hx
        rw [← eq_of_beq hfront, List.dropLast_append_getLast? last hget]
      · cases hx
    · cases hx
  exact List.Nodup.of_map _ (h.sublist (hnames.trans hentries))

/-- What exists is no deeper on the disk than there are things. -/
theorem IsTree.length_le {d : Disk} (h : d.IsTree) {names : List String} {e : DiskEntry}
    (hat : d.at? names = some e) : names.length ≤ d.entries.length := by
  -- each name on the way ends at a thing of its own
  have hthere : ∀ above, above <+: names → above ≠ [] → above ∈ d.entries.map (·.1) := by
    intro above habove hne
    have hsome : ∃ e', d.at? above = some e' := by
      by_cases hall : above = names
      · exact ⟨e, hall ▸ hat⟩
      · exact ⟨.directory, h.stands hat above habove hall⟩
    obtain ⟨e', he'⟩ := hsome
    unfold at? at he'
    rw [if_neg (by simpa using hne)] at he'
    exact List.mem_map_of_mem (mem_of_lookup he')
  have hdistinct : ((List.range names.length).map fun i => names.take (i + 1)).Nodup := by
    refine List.Nodup.map_on (fun i hi j hj hsame => ?_) List.nodup_range
    have hlength := congrArg List.length hsame
    rw [List.length_take, List.length_take] at hlength
    have hi := List.mem_range.1 hi
    have hj := List.mem_range.1 hj
    omega
  have hsub : ((List.range names.length).map fun i => names.take (i + 1)) ⊆
      d.entries.map (·.1) := by
    intro above habove
    obtain ⟨i, hi, rfl⟩ := List.mem_map.1 habove
    refine hthere _ (List.take_prefix _ _) fun hnil => ?_
    have hlength := congrArg List.length hnil
    rw [List.length_take, List.length_nil] at hlength
    have hi := List.mem_range.1 hi
    omega
  simpa using (hdistinct.subperm hsub).length_le

end Disk

/-! ## Files below a directory -/

/-- A file below a directory: the directories on the way to it and its own name. -/
structure FileWay where
  directories : List String
  name : String
  deriving DecidableEq, Repr

namespace FileWay

/-- All names on the way to a file, its own at the end. -/
def names (w : FileWay) : List String :=
  w.directories ++ [w.name]

/-- The same file as seen from the directory above. -/
def within (dir : String) (w : FileWay) : FileWay :=
  ⟨dir :: w.directories, w.name⟩

/--
The order in which a walk meets files: those of a directory come by name, and before all that are in
its directories, which come by name themselves.
-/
inductive Before : FileWay → FileWay → Prop
  | files {f g : String} (h : f < g) : Before ⟨[], f⟩ ⟨[], g⟩
  | deeper (f g dir : String) (rest : List String) : Before ⟨[], f⟩ ⟨dir :: rest, g⟩
  | directories {dir dir' : String} (h : dir < dir') (rest rest' : List String) (f g : String) :
      Before ⟨dir :: rest, f⟩ ⟨dir' :: rest', g⟩
  | same (dir : String) {rest rest' : List String} {f g : String}
      (h : Before ⟨rest, f⟩ ⟨rest', g⟩) : Before ⟨dir :: rest, f⟩ ⟨dir :: rest', g⟩

theorem Before.asymm {v w : FileWay} (h : Before v w) : ¬ Before w v := by
  induction h with
  | files h =>
      rintro (h' | _ | _ | _)
      exact String.lt_asymm h h'
  | deeper =>
      intro h'
      cases h'
  | directories h =>
      rintro (_ | _ | h' | _)
      · exact String.lt_asymm h h'
      · exact String.lt_irrefl _ h
  | same dir h ih =>
      rintro (_ | _ | h' | ⟨_, h'⟩)
      · exact String.lt_irrefl _ h'
      · exact ih h'

theorem Before.nodup {ways : List FileWay} (h : ways.Pairwise Before) : ways.Nodup :=
  h.imp fun hbefore hsame => (hsame ▸ hbefore).asymm (hsame ▸ hbefore)

/-- There is only one order in which a walk can meet given files. -/
theorem eq_of_pairwise_before {ways ways' : List FileWay} (h : ways.Pairwise Before)
    (h' : ways'.Pairwise Before) (hmem : ∀ w, w ∈ ways ↔ w ∈ ways') : ways = ways' := by
  -- neither list has a file twice, so that they can differ in their order only
  have hperm : ways.Perm ways' :=
    (List.perm_ext_iff_of_nodup (Before.nodup h) (Before.nodup h')).2 hmem
  exact hperm.eq_of_pairwise (fun v w _ _ hvw hwv => absurd hwv hvw.asymm) h h'

end FileWay

open FileWay (Before)

theorem isSourceFile_iff {name : String} :
    isSourceFile name = true ↔ ".ts".toList <:+ name.toList ∧ ¬ ".d.ts".toList <:+ name.toList ∧
      ¬ ".spec.ts".toList <:+ name.toList := by
  unfold isSourceFile Text.endsWith
  simp only [Bool.and_eq_true, Bool.not_eq_true', ← Bool.not_eq_true, List.isSuffixOf_iff_suffix,
    and_assoc]

/--
A walk from a directory is meant to give a file: its name is one of source text, and no directory on
the way to it is one that holds no sources.
-/
structure Disk.HasSource (d : Disk) (root : List String) (w : FileWay) : Prop where
  file : ∃ content, d.at? (root ++ w.names) = some (.file content)
  ending : ".ts".toList <:+ w.name.toList
  undeclared : ¬ ".d.ts".toList <:+ w.name.toList
  untested : ¬ ".spec.ts".toList <:+ w.name.toList
  unskipped : ∀ dir ∈ w.directories, dir ∉ skippedDirectories

namespace Disk

variable {d : Disk} {names : List String}

theorem hasSource_nil_iff {f : String} :
    d.HasSource names ⟨[], f⟩ ↔
      (∃ content, d.at? (names ++ [f]) = some (.file content)) ∧ isSourceFile f = true := by
  rw [isSourceFile_iff]
  constructor
  · rintro ⟨hfile, hts, hdeclared, htested, -⟩
    exact ⟨hfile, hts, hdeclared, htested⟩
  · rintro ⟨hfile, hts, hdeclared, htested⟩
    exact ⟨hfile, hts, hdeclared, htested, fun _ hdir => absurd hdir List.not_mem_nil⟩

theorem hasSource_cons_iff {dir f : String} {rest : List String} :
    d.HasSource names ⟨dir :: rest, f⟩ ↔
      dir ∉ skippedDirectories ∧ d.HasSource (names ++ [dir]) ⟨rest, f⟩ := by
  have hway : names ++ (dir :: rest ++ [f]) = names ++ [dir] ++ (rest ++ [f]) := by simp
  constructor
  · rintro ⟨hfile, hts, hdeclared, htested, hskipped⟩
    obtain ⟨hdir, hrest⟩ := List.forall_mem_cons.1 hskipped
    exact ⟨hdir, hway ▸ hfile, hts, hdeclared, htested, hrest⟩
  · rintro ⟨hdir, hfile, hts, hdeclared, htested, hrest⟩
    exact ⟨hway.symm ▸ hfile, hts, hdeclared, htested, List.forall_mem_cons.2 ⟨hdir, hrest⟩⟩

/-! ## What is in one directory -/

theorem mem_fileNames_iff {f : String} :
    f ∈ fileNames (d.list names) ↔ ∃ content, (names ++ [f], .file content) ∈ d.entries := by
  unfold fileNames
  rw [(Text.sorted_perm _).mem_iff, List.mem_filterMap]
  constructor
  · rintro ⟨⟨f', e⟩, hlisted, hread⟩
    cases e with
    | directory => cases hread
    | file content =>
        cases hread
        exact ⟨content, mem_list_iff.1 hlisted⟩
  · rintro ⟨content, hentry⟩
    exact ⟨(f, .file content), mem_list_iff.2 hentry, rfl⟩

theorem mem_directoryNames_iff {dir : String} :
    dir ∈ directoryNames (d.list names) ↔
      dir ∉ skippedDirectories ∧ (names ++ [dir], .directory) ∈ d.entries := by
  unfold directoryNames
  rw [(Text.sorted_perm _).mem_iff, List.mem_filterMap]
  constructor
  · rintro ⟨⟨dir', e⟩, hlisted, hread⟩
    -- only a directory that is not skipped gives its name
    cases e with
    | file content => cases hread
    | directory =>
        dsimp only at hread
        split at hread
        · cases hread
        · rename_i hskipped
          cases hread
          exact ⟨fun hdir => hskipped (List.contains_iff_mem.2 hdir), mem_list_iff.1 hlisted⟩
  · rintro ⟨hskipped, hentry⟩
    refine ⟨(dir, .directory), mem_list_iff.2 hentry, ?_⟩
    exact if_neg fun hdir => hskipped (List.contains_iff_mem.1 hdir)

section Listing

variable (h : d.IsListed)

include h

theorem pairwise_fileNames : (fileNames (d.list names)).Pairwise (· < ·) := by
  refine Text.sorted_pairwise (nodup_filterMap_list h.once names ?_)
  rintro ⟨name, e⟩ read hread
  cases e with
  | directory => cases hread
  | file content => exact (Option.some.inj hread).symm

theorem pairwise_directoryNames : (directoryNames (d.list names)).Pairwise (· < ·) := by
  refine Text.sorted_pairwise (nodup_filterMap_list h.once names ?_)
  rintro ⟨name, e⟩ read hread
  cases e with
  | file content => cases hread
  | directory =>
      dsimp only at hread
      split at hread
      · cases hread
      · exact (Option.some.inj hread).symm

end Listing

end Disk

/-! ## The walk by names -/

/-- The source files below a directory by the names on the way to them, down to a depth. -/
def waysFrom (d : Disk) : Nat → List String → List FileWay
  | 0, _ => []
  | depth + 1, names =>
    ((fileNames (d.list names)).filter isSourceFile).map (FileWay.mk []) ++
      (directoryNames (d.list names)).flatMap fun dir =>
        (waysFrom d depth (names ++ [dir])).map (FileWay.within dir)

section Walk

variable {d : Disk} {depth : Nat} {names : List String}

/-- A walk puts the names on the way to each file below its path. -/
theorem sourceFilesFrom_eq_map (d : Disk) (depth : Nat) (names : List String) (path : String) :
    sourceFilesFrom d depth names path =
      (waysFrom d depth names).map fun w => joinAll path w.names := by
  induction depth generalizing names path with
  | zero => rfl
  | succ depth ih =>
      unfold sourceFilesFrom waysFrom
      dsimp only
      rw [List.map_append, List.map_map, List.map_flatMap]
      congr 1
      refine congrArg (List.flatMap · _) (funext fun dir => ?_)
      rw [ih, List.map_map]
      rfl

theorem mem_waysFrom_nil {f : String} :
    ⟨[], f⟩ ∈ waysFrom d (depth + 1) names ↔
      f ∈ fileNames (d.list names) ∧ isSourceFile f = true := by
  unfold waysFrom
  rw [List.mem_append, List.mem_map, ← List.mem_filter]
  constructor
  · rintro (⟨f', hf, hsame⟩ | hbelow)
    · cases hsame
      exact hf
    · obtain ⟨dir, -, hway⟩ := List.mem_flatMap.1 hbelow
      obtain ⟨w, -, hsame⟩ := List.mem_map.1 hway
      cases hsame
  · exact fun hf => Or.inl ⟨f, hf, rfl⟩

theorem mem_waysFrom_cons {dir f : String} {rest : List String} :
    ⟨dir :: rest, f⟩ ∈ waysFrom d (depth + 1) names ↔
      dir ∈ directoryNames (d.list names) ∧ ⟨rest, f⟩ ∈ waysFrom d depth (names ++ [dir]) := by
  rw [waysFrom, List.mem_append, List.mem_flatMap]
  constructor
  · rintro (hfile | ⟨dir', hdir, hway⟩)
    · obtain ⟨f', -, hsame⟩ := List.mem_map.1 hfile
      cases hsame
    · obtain ⟨w, hw, hsame⟩ := List.mem_map.1 hway
      cases hsame
      exact ⟨hdir, hw⟩
  · rintro ⟨hdir, hway⟩
    exact Or.inr ⟨dir, hdir, List.mem_map.2 ⟨_, hway, rfl⟩⟩

/-- A walk meets files only. -/
theorem mem_entries_of_mem_waysFrom {w : FileWay} (hw : w ∈ waysFrom d depth names) :
    ∃ content, (names ++ w.names, .file content) ∈ d.entries := by
  obtain ⟨directories, f⟩ := w
  induction depth generalizing names directories with
  | zero => cases hw
  | succ depth ih =>
      cases directories with
      | nil => exact Disk.mem_fileNames_iff.1 (mem_waysFrom_nil.1 hw).1
      | cons dir rest =>
          obtain ⟨content, hentry⟩ := ih _ (mem_waysFrom_cons.1 hw).2
          refine ⟨content, ?_⟩
          have hway : names ++ [dir] ++ (rest ++ [f]) = names ++ (dir :: rest ++ [f]) := by simp
          exact hway ▸ hentry

/-- A walk down to a depth gives the source files above it. -/
theorem mem_waysFrom (h : d.IsListed) {w : FileWay} :
    w ∈ waysFrom d depth names ↔ d.HasSource names w ∧ w.directories.length < depth := by
  obtain ⟨directories, f⟩ := w
  -- a file is listed here, or in a directory, from where its way is shorter
  induction depth generalizing names directories with
  | zero => simp [waysFrom]
  | succ depth ih =>
      cases directories with
      | nil =>
          rw [mem_waysFrom_nil, Disk.mem_fileNames_iff, Disk.hasSource_nil_iff]
          simp [Disk.at?_eq_some_iff_mem h.once]
      | cons dir rest =>
          rw [mem_waysFrom_cons, Disk.mem_directoryNames_iff, ih, Disk.hasSource_cons_iff,
            ← Disk.at?_eq_some_iff_mem h.once (by simp)]
          have hdepth : (dir :: rest).length < depth + 1 ↔ rest.length < depth :=
            Nat.succ_lt_succ_iff
          constructor
          · rintro ⟨⟨hskipped, -⟩, hsource, hlength⟩
            exact ⟨⟨hskipped, hsource⟩, hdepth.2 hlength⟩
          · rintro ⟨⟨hskipped, hsource⟩, hlength⟩
            -- the file stands in the directory
            obtain ⟨content, hat⟩ := hsource.file
            have hstands := h.tree.stands hat (names ++ [dir]) (List.prefix_append _ _)
              (by simp [FileWay.names])
            exact ⟨⟨hskipped, hstands⟩, hsource, hdepth.1 hlength⟩

/-- A walk meets the files in its order. -/
theorem pairwise_waysFrom (h : d.IsListed) (depth : Nat) (names : List String) :
    (waysFrom d depth names).Pairwise Before := by
  induction depth generalizing names with
  | zero => exact List.Pairwise.nil
  | succ depth ih =>
      rw [waysFrom]
      -- the files here, then the directories one after the other, each by the induction
      refine List.pairwise_append.2 ⟨?files, List.pairwise_flatMap.2 ⟨?inside, ?between⟩, ?deeper⟩
      case files =>
        refine List.pairwise_map.2 (((Disk.pairwise_fileNames h).filter _).imp ?_)
        exact fun hlt => Before.files hlt
      case inside =>
        intro dir _
        refine List.pairwise_map.2 ((ih _).imp ?_)
        exact fun hbefore => Before.same dir hbefore
      case between =>
        refine (Disk.pairwise_directoryNames h).imp fun hlt v hv w hw => ?_
        obtain ⟨v', -, rfl⟩ := List.mem_map.1 hv
        obtain ⟨w', -, rfl⟩ := List.mem_map.1 hw
        exact Before.directories hlt _ _ _ _
      case deeper =>
        intro v hv w hw
        obtain ⟨f, -, rfl⟩ := List.mem_map.1 hv
        obtain ⟨dir, -, hway⟩ := List.mem_flatMap.1 hw
        obtain ⟨w', -, rfl⟩ := List.mem_map.1 hway
        exact Before.deeper _ _ _ _

/-! ## The walk by paths -/

/-- A source file is reached through names. -/
theorem Disk.HasSource.isName (h : d.IsListed) {w : FileWay} (hw : d.HasSource names w) :
    ∀ n ∈ w.names, IsName n := by
  obtain ⟨content, hat⟩ := hw.file
  have hentry := (Disk.at?_eq_some_iff_mem h.once (by simp [FileWay.names])).1 hat
  exact fun n hn => h.named _ hentry n (List.mem_append_right names hn)

/-- All source files below a directory are above the depth of a walk. -/
theorem mem_waysFrom_length (h : d.IsListed) {w : FileWay} :
    w ∈ waysFrom d (d.entries.length + 1) names ↔ d.HasSource names w := by
  rw [mem_waysFrom h]
  refine and_iff_left_of_imp fun hw => ?_
  obtain ⟨content, hat⟩ := hw.file
  have hlength := h.tree.length_le hat
  simp only [FileWay.names, List.length_append] at hlength
  omega

/-- A walk meets the same files in the same order from any listing. -/
theorem waysFrom_of_relisted (h : d.IsListed) {d' : Disk} (hd : Disk.Relisted d d') :
    waysFrom d' (d'.entries.length + 1) names = waysFrom d (d.entries.length + 1) names := by
  have h' := hd.isListed h
  refine FileWay.eq_of_pairwise_before (pairwise_waysFrom h' _ _) (pairwise_waysFrom h _ _) ?_
  intro w
  rw [mem_waysFrom_length h', mem_waysFrom_length h]
  have hat := (hd.alike h).at?_eq
  constructor
  · rintro ⟨hfile, hts, hdeclared, htested, hskipped⟩
    exact ⟨hat ▸ hfile, hts, hdeclared, htested, hskipped⟩
  · rintro ⟨hfile, hts, hdeclared, htested, hskipped⟩
    exact ⟨hat.symm ▸ hfile, hts, hdeclared, htested, hskipped⟩

/-- Every source file is reached through names. -/
theorem exists_names_of_mem_sourceFiles (hnamed : ∀ entry ∈ d.entries, ∀ n ∈ entry.1, IsName n)
    {path p : String} (h : p ∈ sourceFiles d path) :
    ∃ ways, (∀ n ∈ ways, IsName n) ∧ p = joinAll path ways := by
  unfold sourceFiles at h
  split at h
  · rw [sourceFilesFrom_eq_map] at h
    obtain ⟨w, hw, rfl⟩ := List.mem_map.1 h
    obtain ⟨content, hentry⟩ := mem_entries_of_mem_waysFrom hw
    exact ⟨w.names, fun n hn => hnamed _ hentry n (List.mem_append_right _ hn), rfl⟩
  · cases h

theorem sourceFiles_of_find {path : String} (hfind : d.find path = .ok (names, .directory)) :
    sourceFiles d path =
      (waysFrom d (d.entries.length + 1) names).map fun w => joinAll path w.names := by
  unfold sourceFiles
  rw [hfind]
  exact sourceFilesFrom_eq_map d _ names path

end Walk

theorem parts_joinAll (base : String) {ways : List String} (h : ∀ w ∈ ways, IsName w) :
    parts (joinAll base ways) = parts base ++ ways := by
  induction ways generalizing base with
  | nil => simp [joinAll]
  | cons w rest ih =>
      obtain ⟨hw, hrest⟩ := List.forall_mem_cons.1 h
      have hjoin : joinAll base (w :: rest) = joinAll (join base w) rest := rfl
      have hone : parts w = [w] := by
        rw [parts_of_not_mem hw.isLevel.1]
        simp [hw.1]
      rw [hjoin, ih (join base w) hrest, parts_join (isAbsolute_of_not_mem hw.isLevel.1), hone,
        List.append_assoc, List.singleton_append]

/-- The last name of a path is the one that was joined last. -/
theorem baseName_join (base : String) {name : String} (h : '/' ∉ name.toList) :
    baseName (join base name) = name := by
  obtain ⟨front, hfront⟩ := exists_segments_join base
  obtain ⟨before, hbefore⟩ := segments_concat_baseName (join base name)
  rw [hfront name (isAbsolute_of_not_mem h), segments_of_not_mem h] at hbefore
  have hlast := congrArg List.getLast? hbefore
  rw [List.getLast?_concat, List.getLast?_concat] at hlast
  exact (Option.some.inj hlast).symm

theorem FileWay.baseName_joinAll (path : String) {w : FileWay} (h : ∀ n ∈ w.names, IsName n) :
    baseName (joinAll path w.names) = w.name := by
  have hlast : joinAll path w.names = join (joinAll path w.directories) w.name := by
    unfold FileWay.names joinAll
    rw [List.foldl_append]
    rfl
  rw [hlast]
  exact baseName_join _ (h w.name (by simp [FileWay.names])).isLevel.1

/-- Different files have different paths. -/
theorem FileWay.eq_of_joinAll_eq {path : String} {v w : FileWay} (hv : ∀ n ∈ v.names, IsName n)
    (hw : ∀ n ∈ w.names, IsName n) (h : joinAll path v.names = joinAll path w.names) : v = w := by
  have hparts := congrArg parts h
  rw [parts_joinAll path hv, parts_joinAll path hw] at hparts
  obtain ⟨hdirectories, hname⟩ := List.append_inj' (List.append_cancel_left hparts) rfl
  obtain ⟨directories, name⟩ := v
  obtain ⟨directories', name'⟩ := w
  cases hdirectories
  cases List.singleton_inj.1 hname
  rfl

/--
The walk through the source files of a directory. However the disk lists its things, the walk gives
every file that it is meant to give and no other, each once, those of a directory before those of
the directories in it and both by name; a search gives the first of them whose names pass its test.
-/
theorem sourceFiles_walk {d : Disk} (h : d.IsListed) {path : String} {root : List String}
    (hfind : d.find path = .ok (root, .directory)) :
    ∃ walk : List FileWay,
      (∀ w, w ∈ walk ↔ d.HasSource root w) ∧ walk.Pairwise Before ∧
      ∀ d', Disk.Relisted d d' →
        sourceFiles d' path = walk.map (fun w => joinAll path w.names) ∧
        (sourceFiles d' path).Nodup ∧
        ∀ test limit, filesMatching d' path test limit =
          ((walk.filter fun w => test w.name).take limit).map fun w => joinAll path w.names := by
  have hmem : ∀ w, w ∈ waysFrom d (d.entries.length + 1) root ↔ d.HasSource root w :=
    fun w => mem_waysFrom_length h
  have hnames : ∀ w ∈ waysFrom d (d.entries.length + 1) root, ∀ n ∈ w.names, IsName n :=
    fun w hw => ((hmem w).1 hw).isName h
  have hordered := pairwise_waysFrom h (d.entries.length + 1) root
  -- the walk from any other listing is this one, too
  refine ⟨waysFrom d (d.entries.length + 1) root, hmem, hordered, fun d' hd => ?_⟩
  have hfiles : sourceFiles d' path =
      (waysFrom d (d.entries.length + 1) root).map fun w => joinAll path w.names := by
    rw [sourceFiles_of_find (((hd.alike h).find_eq path).trans hfind), waysFrom_of_relisted h hd]
  refine ⟨hfiles, ?_, fun test limit => ?_⟩
  · rw [hfiles]
    exact List.Nodup.map_on
      (fun v hv w hw hsame => FileWay.eq_of_joinAll_eq (hnames v hv) (hnames w hw) hsame)
      (Before.nodup hordered)
  · unfold filesMatching
    rw [hfiles, List.filter_map, List.map_take]
    congr 2
    refine List.filter_congr fun w hw => ?_
    exact congrArg test (FileWay.baseName_joinAll path (hnames w hw))

/-- A disk that lists its files in no order, one of them in a directory that holds no sources. -/
def shuffledDisk : Disk where
  entries :=
    [(["w", "src", "node_modules", "kept.ts"], .file []),
      (["w", "src", "users", "user.ts"], .file []), (["w", "src", "main.ts"], .file []),
      (["w"], .directory), (["w", "src", "users"], .directory),
      (["w", "src", "users", "User.ts"], .file []), (["w", "src", "types.d.ts"], .file []),
      (["w", "src", "node_modules"], .directory), (["w", "src", "app.ts"], .file []),
      (["w", "src", "users", "user.spec.ts"], .file []), (["w", "src"], .directory)]
  workplace := ["w"]

theorem sourceFiles_walk_shuffledDisk :
    shuffledDisk.IsListed ∧ shuffledDisk.find "src" = .ok (["w", "src"], .directory) ∧
      sourceFiles shuffledDisk "src" =
        ["src/app.ts", "src/main.ts", "src/users/User.ts", "src/users/user.ts"] ∧
      ∃ walk : List FileWay,
        (∀ w, w ∈ walk ↔ shuffledDisk.HasSource ["w", "src"] w) ∧ walk.Pairwise Before ∧
        ∀ d', Disk.Relisted shuffledDisk d' →
          sourceFiles d' "src" = walk.map (fun w => joinAll "src" w.names) ∧
          (sourceFiles d' "src").Nodup ∧
          ∀ test limit, filesMatching d' "src" test limit =
            ((walk.filter fun w => test w.name).take limit).map fun w => joinAll "src" w.names := by
  have hlisted : shuffledDisk.IsListed :=
    ⟨⟨(by decide : ∀ n ∈ ["w"], IsName n), by decide, by decide⟩, by decide, by decide⟩
  have hfind : shuffledDisk.find "src" = .ok (["w", "src"], .directory) := by decide +kernel
  exact ⟨hlisted, hfind, by decide +kernel, sourceFiles_walk hlisted hfind⟩

end RoleAudit
