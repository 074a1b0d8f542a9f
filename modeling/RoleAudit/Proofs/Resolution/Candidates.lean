import RoleAudit.Proofs.Path.Ends
import RoleAudit.Proofs.Path.Routes
import RoleAudit.Proofs.Resolution.Cache
import RoleAudit.Proofs.SourceFiles
import RoleAudit.Proofs.Text.Distinct

/-!
# Candidates and the project

The files that a resolver checks are put together from the project, the path of the controller, and
texts of its source: the path of an import, the path of the controller class, and class names. The
path of an import is followed as it is written, and so is a class name with slashes in it, which a
type may have. All other candidates lie in the project:

- `LookupContext.importRoutes`, `LookupContext.nameRoutes`: the routes that are followed as written;
- `mem_serviceFiles_cases`, `mem_policyFiles`, `mem_byScan`: the other candidates, which are put
  together from plain segments;
- `candidate_liesBelow_or_leaves`: a candidate lies in the project, or is the end of a route that
  leaves it;
- `keepsBelow_of_mem_nameRoutes`: the routes of a class name without slashes do not leave.
-/

namespace RoleAudit

open RoleAudit.Path

/-! ## Texts without slashes -/

namespace Text

theorem slash_lt_image {run : CaseRun} (h : run ∈ lowerRuns) : '/'.toNat < run.image := by
  have hall : lowerRuns.all (fun run => decide ('/'.toNat < run.image)) = true := by
    decide +kernel
  simpa using List.all_eq_true.1 hall run h

theorem toLower_ne_slash {c : Char} (h : c ≠ '/') : c.toLower ≠ '/' := by
  unfold Char.toLower
  split
  · rename_i hcapital
    intro heq
    have hval : c.val + ('a'.val - 'A'.val) = '/'.val := congrArg Char.val heq
    have hleast : 65 ≤ c.val.toNat := UInt32.le_iff_toNat_le.1 hcapital.1
    have hmost : c.val.toNat ≤ 90 := UInt32.le_iff_toNat_le.1 hcapital.2
    have hsum := congrArg UInt32.toNat hval
    rw [UInt32.toNat_add] at hsum
    have hstep : ('a'.val - 'A'.val).toNat = 32 := by decide
    have hslash : '/'.val.toNat = 47 := by decide
    omega
  · exact h

theorem ofNat_ne_slash {n : Nat} (h : '/'.toNat < n) : Char.ofNat n ≠ '/' := by
  have hslash : '/'.toNat = 47 := by decide
  by_cases hvalid : n.isValidChar
  · rw [Char.ofNat, dif_pos hvalid]
    intro heq
    have hnat : n = '/'.toNat := congrArg Char.toNat heq
    omega
  · rw [Char.ofNat, dif_neg hvalid]
    decide

theorem lowerSimple_ne_slash {c : Char} (h : c ≠ '/') : lowerSimple c ≠ '/' := by
  unfold lowerSimple
  split
  · exact toLower_ne_slash h
  · split
    · decide
    · cases himage : runImage? lowerRuns c.toNat with
      | none => exact h
      | some n =>
          rcases Option.map_eq_some_iff.1 himage with ⟨run, hrun, rfl⟩
          have hless := slash_lt_image (List.mem_of_find?_eq_some hrun)
          exact ofNat_ne_slash (Nat.lt_of_lt_of_le hless (Nat.le_add_right _ _))

theorem not_mem_lowerAfter {cs : List Char} (h : '/' ∉ cs) (before : List Char) :
    '/' ∉ lowerAfter before cs := by
  induction cs generalizing before with
  | nil => simp [lowerAfter]
  | cons c rest ih =>
      rcases not_or.1 fun hor => h (List.mem_cons.2 hor) with ⟨hc, hrest⟩
      have hlower : '/' ∉ lowerChar c := by
        unfold lowerChar
        split
        · decide
        · simpa using (lowerSimple_ne_slash fun heq => hc heq.symm).symm
      -- a sigma becomes one of two letters, by what stands around it
      have hsigma : ∀ cond : Bool,
          '/' ∉ [if cond then Char.ofNat 0x3c2 else Char.ofNat 0x3c3] := by decide
      rw [lowerAfter, List.mem_append, not_or]
      refine ⟨?_, ih hrest (c :: before)⟩
      split
      · exact hsigma _
      · exact hlower

theorem not_mem_lower {s : String} (h : '/' ∉ s.toList) : '/' ∉ (lower s).toList := by
  unfold lower
  rw [String.toList_ofList]
  exact not_mem_lowerAfter h []

end Text

namespace Naming

theorem not_mem_kebab {name : String} (h : '/' ∉ name.toList) : '/' ∉ (kebab name).toList := by
  unfold kebab
  cases hname : name.toList with
  | nil => simp
  | cons c cs =>
      rw [hname] at h
      apply Text.not_mem_lower
      rw [String.toList_ofList]
      intro hmem
      rcases List.mem_cons.1 hmem with hc | hcs
      · exact h (hc ▸ List.mem_cons_self)
      · rcases List.mem_flatMap.1 hcs with ⟨b, hb, hslash⟩
        -- only hyphens are put in, and the letters stay
        have hcase : '/' = b := by
          split at hslash
          · simpa using hslash
          · simpa using hslash
        exact h (List.mem_cons_of_mem c (hcase ▸ hb))

theorem not_mem_withoutService {name : String} (h : '/' ∉ name.toList) :
    '/' ∉ (withoutService name).toList := by
  have hcut : ∀ n, '/' ∉ (Text.dropLast name n).toList := by
    intro n hmem
    unfold Text.dropLast at hmem
    rw [String.toList_ofList] at hmem
    exact h (List.mem_of_mem_take hmem)
  unfold withoutService
  dsimp only
  split
  · exact hcut _
  · split
    · rw [String.toList_append]
      simpa using hcut _
    · exact h

theorem not_mem_moduleName (basePath : String) : '/' ∉ (moduleName basePath).toList := by
  unfold moduleName
  cases hfound : (Text.splitAt '/' basePath).find? fun p => !p.isEmpty with
  | none => simp
  | some s =>
      have hmem : s ∈ segments basePath := List.mem_of_find?_eq_some hfound
      exact not_mem_of_mem_segments hmem

end Naming

/-! ## Routes as they are written -/

namespace LookupContext

/-- The routes that the path of an import is followed on. -/
def importRoutes (c : LookupContext) : List Route :=
  let file := c.importFile
  if file.isEmpty then []
  else if Text.startsWith file "./" || Text.startsWith file "../" then
    let own :=
      match c.controllerDirectory with
      | some directory => if directory.isEmpty then [] else [⟨directory, [file]⟩]
      | none => []
    let bare := Text.dropFirst file (if Text.startsWith file "./" then 2 else 3)
    let inModule :=
      if c.moduleName.isEmpty then [] else [⟨c.project, [sourceRoot, c.moduleName, bare]⟩]
    own ++ inModule ++ [⟨c.project, [sourceRoot, bare]⟩]
  else if Text.startsWith file "@/" then
    [⟨c.project, [sourceRoot, Text.dropFirst file 2]⟩]
  else if Text.startsWith file (sourceRoot ++ "/") then [⟨c.project, [file]⟩]
  else [⟨c.project, [sourceRoot, file]⟩, ⟨c.project, [file]⟩]

/-- The routes that the name of a service class is followed on. -/
def nameRoutes (c : LookupContext) (name : String) : List Route :=
  let stem := Naming.kebab (Naming.withoutService name)
  let file := stem ++ ".service.ts"
  (if c.moduleName.isEmpty then [] else [⟨c.project, [sourceRoot, c.moduleName, file]⟩]) ++
    [⟨c.project, [sourceRoot, stem, file]⟩, ⟨c.project, [sourceRoot, file]⟩]

/-- All routes that texts of the source lead, as they are written there. -/
def openRoutes (c : LookupContext) : List Route :=
  c.importRoutes ++
    match c.kind with
    | .service => (c.classNames.filter fun name => name.toList.contains '/').flatMap c.nameRoutes
    | .policy => []

/-- A context is looked at from inside the project. -/
structure IsInside (d : Disk) (c : LookupContext) : Prop where
  moduleName : '/' ∉ c.moduleName.toList
  directory : ∀ directory, c.controllerDirectory = some directory → directory ≠ "" →
    d.LiesBelow c.project directory

end LookupContext

/-! ## Plain candidates -/

section Candidates

variable {d : Disk} {c : LookupContext}

theorem join_eq_path (base way : String) : join base way = Route.path ⟨base, [way]⟩ := rfl

theorem join_sources_eq_path (c : LookupContext) (way : String) :
    join c.sources way = Route.path ⟨c.project, [sourceRoot, way]⟩ := rfl

theorem joinAll_sources_eq_path (c : LookupContext) (ways : List String) :
    joinAll c.sources ways = Route.path ⟨c.project, sourceRoot :: ways⟩ := rfl

/-- The path of an import leads where its routes do. -/
theorem map_namesAt_byImport (d : Disk) (c : LookupContext) :
    (Locator.byImport c).map d.namesAt = c.importRoutes.map fun r => d.namesAt r.path := by
  unfold Locator.byImport LookupContext.importRoutes
  dsimp only
  split
  · rfl
  · split
    · -- without a directory of the controller one file less is meant
      cases c.controllerDirectory with
      | none =>
          dsimp only
          rw [joinAll_sources_eq_path, join_sources_eq_path]
          by_cases hmodule : c.moduleName.isEmpty = true <;> simp [hmodule]
      | some directory =>
          dsimp only
          rw [joinAll_sources_eq_path, join_sources_eq_path, join_eq_path]
          by_cases hdirectory : directory.isEmpty = true <;>
            by_cases hmodule : c.moduleName.isEmpty = true <;>
              simp [hdirectory, hmodule, Disk.namesAt_normalize]
    · rw [join_sources_eq_path, join_sources_eq_path, join_eq_path]
      split
      · rfl
      · split <;> rfl

theorem importFile_ends (c : LookupContext) :
    c.importFile = "" ∨ Text.endsWith c.importFile "ts" = true ∨
      Text.endsWith c.importFile "js" = true := by
  -- an ending of an ending is an ending
  have hlonger : ∀ {s t u : String}, u.toList <:+ t.toList → Text.endsWith s t = true →
      Text.endsWith s u = true := by
    intro s t u hu hs
    exact List.isSuffixOf_iff_suffix.2 (hu.trans (List.isSuffixOf_iff_suffix.1 hs))
  unfold LookupContext.importFile
  dsimp only
  split
  · rename_i hkept
    simp only [Bool.or_eq_true] at hkept
    rcases hkept with (hempty | hts) | hjs
    · exact Or.inl (String.isEmpty_iff.1 hempty)
    · exact Or.inr (Or.inl (hlonger (by decide) hts))
    · exact Or.inr (Or.inr (hlonger (by decide) hjs))
  · refine Or.inr (Or.inl (List.isSuffixOf_iff_suffix.2 ?_))
    rw [String.toList_append]
    exact (show "ts".toList <:+ ".ts".toList by decide).trans (List.suffix_append _ _)

/-- The name of the file of an import does not go up. -/
theorem isLevel_baseName_importFile (c : LookupContext) : IsLevel (baseName c.importFile) := by
  refine ⟨not_mem_baseName _, fun hup => ?_⟩
  -- the name ends in the last letter of the path, and this is no dot
  have hlast : ∀ rest, c.importFile.toList = rest ++ ['s'] → False := by
    intro rest hrest
    unfold baseName at hup
    rw [hrest, List.reverse_concat, List.takeWhile_cons_of_pos (by decide),
      List.reverse_cons] at hup
    have hchars := congrArg (fun s : String => s.toList.getLast?) hup
    simp at hchars
  rcases importFile_ends c with hempty | hends | hends
  · rw [hempty] at hup
    exact absurd hup (by decide)
  · rcases List.isSuffixOf_iff_suffix.1 hends with ⟨before, hbefore⟩
    exact hlast (before ++ ['t']) (by rw [← hbefore]; simp)
  · rcases List.isSuffixOf_iff_suffix.1 hends with ⟨before, hbefore⟩
    exact hlast (before ++ ['j']) (by rw [← hbefore]; simp)

/-- A candidate is put together from plain segments below the source directory. -/
def LookupContext.PlainBelow (c : LookupContext) (p : String) : Prop :=
  ∃ ways, Plain ways ∧ p = Route.path ⟨c.project, sourceRoot :: ways⟩

theorem LookupContext.plainBelow_joinAll (c : LookupContext) {w : String} {rest : List String}
    (hw : '/' ∉ w.toList) (hrest : ∀ s ∈ rest, IsLevel s) :
    c.PlainBelow (joinAll c.sources (w :: rest)) :=
  ⟨w :: rest, .cons hw hrest, joinAll_sources_eq_path c _⟩

theorem map_path_nameRoutes (c : LookupContext) (name : String) :
    (c.nameRoutes name).map Route.path =
      let stem := Naming.kebab (Naming.withoutService name)
      (if c.moduleName.isEmpty then []
        else [joinAll c.sources [c.moduleName, stem ++ ".service.ts"]]) ++
        [joinAll c.sources [stem, stem ++ ".service.ts"],
          joinAll c.sources [stem ++ ".service.ts"]] := by
  unfold LookupContext.nameRoutes
  simp only [joinAll_sources_eq_path]
  by_cases hmodule : c.moduleName.isEmpty = true <;> simp [hmodule]

/-- A service lies by convention below plain segments, or on a route of its class name. -/
theorem mem_serviceFiles_cases (hmodule : '/' ∉ c.moduleName.toList) {p : String}
    (h : p ∈ Locator.serviceFiles c) :
    c.PlainBelow p ∨ ∃ name ∈ c.classNames, ∃ r ∈ c.nameRoutes name, p = r.path := by
  have hfile := isLevel_baseName_importFile c
  have hnamed : IsLevel (c.moduleName ++ ".service.ts") :=
    isLevel_append hmodule (by decide) (by decide)
  have hfolder : IsLevel "services" := by
    constructor <;> decide
  unfold Locator.serviceFiles at h
  dsimp only at h
  rcases List.mem_append.1 h with hshared | hclass
  · left
    -- with the name of the module, and without it
    rcases List.mem_append.1 hshared with hin | hout
    · split at hin
      · cases hin
      · rcases List.mem_append.1 hin with hin | hin
        · simp only [List.mem_cons, List.not_mem_nil, or_false] at hin
          rcases hin with rfl | rfl
          · exact c.plainBelow_joinAll hmodule (by simpa using hnamed)
          · exact c.plainBelow_joinAll hmodule (by simpa using ⟨hfolder, hnamed⟩)
        · split at hin
          · cases hin
          · rw [List.mem_singleton.1 hin]
            exact c.plainBelow_joinAll hmodule (by simpa using ⟨hfolder, hfile⟩)
    · split at hout
      · cases hout
      · rw [List.mem_singleton.1 hout]
        exact c.plainBelow_joinAll hfolder.1 (by simpa using hfile)
  · right
    rcases List.mem_flatMap.1 hclass with ⟨name, hname, hp⟩
    rw [← map_path_nameRoutes c name] at hp
    rcases List.mem_map.1 hp with ⟨r, hr, rfl⟩
    exact ⟨name, hname, r, hr, rfl⟩

/-- A policy lies by convention below plain segments. -/
theorem mem_policyFiles (hmodule : '/' ∉ c.moduleName.toList) {p : String}
    (h : p ∈ Locator.policyFiles c) : c.PlainBelow p := by
  have hfile := isLevel_baseName_importFile c
  have hnamed : IsLevel (c.moduleName ++ ".policy.ts") :=
    isLevel_append hmodule (by decide) (by decide)
  have hfolders : ∀ folder ∈ ["policies", "policy"], IsLevel folder := by
    intro folder hfolder
    simp only [List.mem_cons, List.not_mem_nil, or_false] at hfolder
    rcases hfolder with rfl | rfl <;> constructor <;> decide
  unfold Locator.policyFiles at h
  dsimp only at h
  rcases List.mem_append.1 h with hin | hout
  · split at hin
    · cases hin
    · rcases List.mem_append.1 hin with hin | hin
      · -- in a folder of the module, and then in the module itself
        rcases List.mem_flatMap.1 hin with ⟨folder, hfolder, hp⟩
        have hlevel := hfolders folder hfolder
        rcases List.mem_cons.1 hp with rfl | hp
        · exact c.plainBelow_joinAll hmodule (by simpa using ⟨hlevel, hnamed⟩)
        · split at hp
          · cases hp
          · rw [List.mem_singleton.1 hp]
            exact c.plainBelow_joinAll hmodule (by simpa using ⟨hlevel, hfile⟩)
      · rw [List.mem_singleton.1 hin]
        exact c.plainBelow_joinAll hmodule (by simpa using hnamed)
  · split at hout
    · cases hout
    · rw [List.mem_singleton.1 hout]
      exact c.plainBelow_joinAll (hfolders "policies" (by simp)).1 (by simpa using hfile)

/-- The files that are found by their names lie below the source directory. -/
theorem mem_byScan (hentries : ∀ entry ∈ d.entries, ∀ n ∈ entry.1, IsName n) {p : String}
    (h : p ∈ Locator.byScan d c) : c.PlainBelow p := by
  have hfiles := (List.mem_filter.1 (List.mem_of_mem_take h)).1
  rcases exists_names_of_mem_sourceFiles hentries hfiles with ⟨ways, hways, hp⟩
  exact ⟨ways, plain_of_isName hways, hp.trans (joinAll_sources_eq_path c ways)⟩

/-! ## All candidates -/

theorem isName_sourceRoot : IsName sourceRoot := by decide

theorem LookupContext.PlainBelow.liesBelow (hd : d.IsPlaced) {p : String} (h : c.PlainBelow p) :
    d.LiesBelow c.project p := by
  rcases h with ⟨ways, hways, rfl⟩
  exact Route.liesBelow hd (List.prefix_refl _)
    (Route.keepsBelow_of_plain d c.project isName_sourceRoot hways)

/-- The routes of a class name without slashes stay in the project. -/
theorem keepsBelow_of_mem_nameRoutes (d : Disk) (hmodule : '/' ∉ c.moduleName.toList)
    {name : String} (hname : '/' ∉ name.toList) {r : Route} (h : r ∈ c.nameRoutes name) :
    r.KeepsBelow d c.project := by
  have hstem : '/' ∉ (Naming.kebab (Naming.withoutService name)).toList :=
    Naming.not_mem_kebab (Naming.not_mem_withoutService hname)
  have hfile : IsLevel (Naming.kebab (Naming.withoutService name) ++ ".service.ts") :=
    isLevel_append hstem (by decide) (by decide)
  -- below the source directory a level may go up once, and what follows goes down
  have hkeeps : ∀ {w rest}, '/' ∉ w.toList → (∀ s ∈ rest, IsLevel s) →
      Route.KeepsBelow d c.project ⟨c.project, sourceRoot :: w :: rest⟩ := fun hw hrest =>
    Route.keepsBelow_of_plain d c.project isName_sourceRoot (.cons hw hrest)
  unfold LookupContext.nameRoutes at h
  dsimp only at h
  rcases List.mem_append.1 h with hin | hout
  · split at hin
    · cases hin
    · rw [List.mem_singleton.1 hin]
      exact hkeeps hmodule (by simpa using hfile)
  · simp only [List.mem_cons, List.not_mem_nil, or_false] at hout
    rcases hout with rfl | rfl
    · exact hkeeps hstem (by simpa using hfile)
    · exact hkeeps hfile.1 (by simp)

/-- The path of an import is followed from the project or from the directory of the controller. -/
theorem base_of_mem_importRoutes {r : Route} (h : r ∈ c.importRoutes) :
    r.base = c.project ∨ c.controllerDirectory = some r.base ∧ r.base ≠ "" := by
  unfold LookupContext.importRoutes at h
  grind [String.isEmpty_iff]

theorem base_of_mem_nameRoutes {name : String} {r : Route} (h : r ∈ c.nameRoutes name) :
    r.base = c.project := by
  unfold LookupContext.nameRoutes at h
  grind

/-- An open route starts in the project. -/
theorem liesBelow_base_of_mem_openRoutes (hc : c.IsInside d) {r : Route} (h : r ∈ c.openRoutes) :
    d.LiesBelow c.project r.base := by
  have hproject : r.base = c.project → d.LiesBelow c.project r.base := by
    intro hbase
    rw [hbase]
    exact List.prefix_refl _
  rcases List.mem_append.1 h with himport | hnames
  · rcases base_of_mem_importRoutes himport with hbase | ⟨hdirectory, hne⟩
    · exact hproject hbase
    · exact hc.directory r.base hdirectory hne
  · split at hnames
    · rcases List.mem_flatMap.1 hnames with ⟨name, -, hr⟩
      exact hproject (base_of_mem_nameRoutes hr)
    · cases hnames

/-- A path ends in the project, or where an open route ends that leaves the project. -/
def LookupContext.Reaches (c : LookupContext) (d : Disk) (p : String) : Prop :=
  d.LiesBelow c.project p ∨
    ∃ r ∈ c.openRoutes, ¬ r.KeepsBelow d c.project ∧ d.namesAt p = d.namesAt r.path

/-- The end of an open route is in the project unless the route leaves it. -/
theorem LookupContext.reaches_of_mem_openRoutes (hd : d.IsPlaced) (hc : c.IsInside d)
    {p : String} {r : Route} (hr : r ∈ c.openRoutes) (hsame : d.namesAt p = d.namesAt r.path) :
    c.Reaches d p := by
  by_cases hkeeps : r.KeepsBelow d c.project
  · refine Or.inl ?_
    rw [Disk.LiesBelow, hsame]
    exact Route.liesBelow hd (liesBelow_base_of_mem_openRoutes hc hr) hkeeps
  · exact Or.inr ⟨r, hr, hkeeps, hsame⟩

/-- The path of an import is followed on open routes only. -/
theorem reaches_of_mem_byImport (hd : d.IsPlaced) (hc : c.IsInside d) {p : String}
    (h : p ∈ Locator.byImport c) : c.Reaches d p := by
  have hmem : d.namesAt p ∈ c.importRoutes.map fun r => d.namesAt r.path := by
    rw [← map_namesAt_byImport]
    exact List.mem_map_of_mem h
  rcases List.mem_map.1 hmem with ⟨r, hr, hsame⟩
  exact c.reaches_of_mem_openRoutes hd hc (List.mem_append_left _ hr) hsame.symm

/-- What lies by convention is in the project, but for class names with slashes. -/
theorem reaches_of_mem_byConvention (hd : d.IsPlaced) (hc : c.IsInside d) {p : String}
    (h : p ∈ Locator.byConvention c) : c.Reaches d p := by
  unfold Locator.byConvention at h
  cases hkind : c.kind with
  | service =>
      rw [hkind] at h
      rcases mem_serviceFiles_cases hc.moduleName h with hplain | ⟨name, hname, r, hr, rfl⟩
      · exact Or.inl (hplain.liesBelow hd)
      · by_cases hslash : '/' ∈ name.toList
        · refine c.reaches_of_mem_openRoutes hd hc (List.mem_append_right _ ?_) rfl
          rw [hkind]
          exact List.mem_flatMap.2 ⟨name, List.mem_filter.2 ⟨hname, by simpa using hslash⟩, hr⟩
        · -- without slashes the class name is one step down
          have hbase : d.LiesBelow c.project r.base := by
            rw [base_of_mem_nameRoutes hr]
            exact List.prefix_refl _
          have hkeeps := keepsBelow_of_mem_nameRoutes d hc.moduleName hslash hr
          exact Or.inl (Route.liesBelow hd hbase hkeeps)
  | policy =>
      rw [hkind] at h
      exact Or.inl ((mem_policyFiles hc.moduleName h).liesBelow hd)

/-- A candidate lies in the project, or is the end of an open route that leaves it. -/
theorem candidate_liesBelow_or_leaves (hd : d.IsPlaced)
    (hentries : ∀ entry ∈ d.entries, ∀ n ∈ entry.1, IsName n) (hc : c.IsInside d)
    {locators : List Locator} {q : String} (h : q ∈ candidates d locators c) :
    d.LiesBelow c.project q ∨
      ∃ r ∈ c.openRoutes, ¬ r.KeepsBelow d c.project ∧ d.namesAt q = d.namesAt r.path := by
  rw [candidates, proposals, Text.mem_distinct, List.mem_map] at h
  rcases h with ⟨p, hp, rfl⟩
  rw [List.flatMap_map] at hp
  rcases List.mem_flatMap.1 hp with ⟨locator, -, hp : p ∈ locator.paths d c⟩
  have hreaches : c.Reaches d p := by
    cases locator with
    | importPath => exact reaches_of_mem_byImport hd hc hp
    | naming => exact reaches_of_mem_byConvention hd hc hp
    | scan => exact Or.inl ((mem_byScan hentries hp).liesBelow hd)
  -- a normal path leads to the same names
  rw [Disk.LiesBelow, Disk.namesAt_normalize]
  exact hreaches

end Candidates
end RoleAudit
