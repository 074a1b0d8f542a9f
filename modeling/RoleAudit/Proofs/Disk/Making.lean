import RoleAudit.Proofs.Disk.Renewal

/-!
# Making the way to some names

A path through names from the root is made unless a file stands in the way or a name is too long:

- `Disk.place_fromRoot_iff`: it leads somewhere if the directories above it are there;
- `Disk.Passable`: no file stands in the way to some names, and none of them is too long;
- `Disk.makePath_fromRoot_iff`: that is all that it takes to make the way;
- `Disk.at?_makePath_fromRoot`: and then there are these directories, and nothing else has changed;
- `Disk.Alike`: disks with the same things, which every operation leaves alike.
-/

namespace RoleAudit
namespace Disk

open RoleAudit.Path

/-! ## Where a path from the root leads -/

/-- No name is too long for a disk. -/
def Fits (names : List String) : Prop :=
  ∀ n ∈ names, (Text.encodeUtf8 n).length ≤ nameLimit

instance (names : List String) : Decidable (Fits names) := by
  unfold Fits
  infer_instance

section FromRoot

variable {d : Disk} {names there : List String} (h : ∀ n ∈ names, IsName n)

theorem follow_isName_iff {here : List String} {n : String} (hn : IsName n) :
    d.follow here n = .ok there ↔
      d.at? here = some .directory ∧ (Text.encodeUtf8 n).length ≤ nameLimit ∧
        there = here ++ [n] := by
  have hplain : ¬ (n == "" || n == ".") = true := by simp [hn.1, hn.2.1]
  have hup : ¬ (n == "..") = true := by simpa using hn.2.2.1
  unfold follow
  rcases d.at? here with _ | _ | content
  · simp
  · dsimp only
    rw [if_neg hplain, if_neg hup]
    by_cases hlong : nameLimit < (Text.encodeUtf8 n).length
    · rw [if_pos hlong]
      simp [Nat.not_le.2 hlong]
    · rw [if_neg hlong]
      simp [Nat.not_lt.1 hlong, eq_comm]
  · simp

include h

/-- Names are followed as long as there are directories on the way. -/
theorem foldlM_follow_isName_iff {here : List String} :
    names.foldlM d.follow here = .ok there ↔
      there = here ++ names ∧ Fits names ∧
        ∀ above, above <+: names → above ≠ names → d.at? (here ++ above) = some .directory := by
  induction names generalizing here with
  | nil => simp [pure, Except.pure, Fits, eq_comm]
  | cons n rest ih =>
      rcases List.forall_mem_cons.1 h with ⟨hn, hrest⟩
      rw [foldlM_follow_cons]
      simp only [follow_isName_iff hn]
      constructor
      · rintro ⟨next, ⟨hdirectory, hshort, rfl⟩, hlater⟩
        rcases (ih hrest).1 hlater with ⟨rfl, hfits, hway⟩
        refine ⟨by simp, List.forall_mem_cons.2 ⟨hshort, hfits⟩, ?_⟩
        intro above habove hne
        -- the first directory on the way is the one where the path starts
        cases above with
        | nil => simpa using hdirectory
        | cons m before =>
            rcases List.cons_prefix_cons.1 habove with ⟨rfl, hbefore⟩
            simpa using hway before hbefore (by simpa using hne)
      · rintro ⟨rfl, hfits, hway⟩
        rcases List.forall_mem_cons.1 hfits with ⟨hshort, hfits⟩
        have hdirectory : d.at? here = some .directory := by
          simpa using hway [] List.nil_prefix (by simp)
        refine ⟨here ++ [n], ⟨hdirectory, hshort, rfl⟩, (ih hrest).2 ⟨by simp, hfits, ?_⟩⟩
        intro above habove hne
        have hlonger := hway (n :: above) (List.cons_prefix_cons.2 ⟨rfl, habove⟩) (by simpa using hne)
        simpa using hlonger

/-- A path from the root leads to its names if the directories above them are there. -/
theorem place_fromRoot_iff :
    d.place (fromRoot names) = .ok there ↔ there = names ∧ Fits names ∧ d.Stands names := by
  have hstart : d.start (fromRoot names) = [] := by
    unfold start
    rw [if_pos (isAbsolute_fromRoot names)]
  have hroot : ∀ segs next, (List.foldlM d.follow [] ("" :: segs) = .ok next) ↔
      segs.foldlM d.follow [] = .ok next := by
    intro segs next
    have hempty : ∀ first, d.follow [] "" = .ok first ↔ [] = first := by
      intro first
      rw [follow_empty_iff]
      exact and_iff_left rfl
    rw [foldlM_follow_cons]
    simp only [hempty, exists_eq_left']
  have hfollow : names.foldlM d.follow [] = .ok there ↔
      there = names ∧ Fits names ∧ d.Stands names := foldlM_follow_isName_iff h
  rw [place_eq_of_ne_empty d (fromRoot_ne_empty names), hstart, segments_fromRoot h, hroot]
  split
  · -- the root has one segment more than names
    rename_i hnil
    subst hnil
    rw [hroot]
    exact hfollow
  · exact hfollow

/-- Something is above names if the directory is there that holds the last of them. -/
theorem hasAbove_fromRoot : d.hasAbove (fromRoot names) = d.isThere (fromRoot names.dropLast) := by
  have hne : (fromRoot names.dropLast).isEmpty = false := by
    simpa [String.isEmpty_iff, Bool.eq_false_iff] using fromRoot_ne_empty names.dropLast
  unfold hasAbove
  rw [above_fromRoot h, hne, Bool.false_or]

theorem leadsThrough_fromRoot_iff {through : List String} :
    d.LeadsThrough (fromRoot names) through ↔ through <+: names := by
  refine ⟨prefix_of_leadsThrough_fromRoot h, fun hfront => ⟨through, ?_, ?_⟩⟩
  · rwa [parts_fromRoot h]
  · unfold start
    rw [if_pos (isAbsolute_fromRoot names), List.reverse_nil,
      resolveSegments_of_isName true [] fun n hn => h n (hfront.subset hn)]
    rfl

theorem isDirect_fromRoot (hne : names ≠ []) : d.IsDirect (fromRoot names) := by
  unfold IsDirect
  rw [parts_fromRoot h, namesAt_fromRoot d h]
  refine ⟨hne, ?_⟩
  intro firsts hfirsts hshorter hback
  have hstart : d.start (fromRoot names) = [] := by
    unfold start
    rw [if_pos (isAbsolute_fromRoot names)]
  rw [hstart, List.reverse_nil,
    resolveSegments_of_isName true [] fun n hn => h n (hfirsts.subset hn)] at hback
  exact hshorter (hfirsts.eq_of_length_le hback.length_le)

end FromRoot

/-! ## Making the way -/

/-- No file stands in the way to some names, and none of them is too long. -/
structure Passable (d : Disk) (names : List String) : Prop where
  fits : Fits names
  free : ∀ above, above <+: names → ∀ content, d.at? above ≠ some (.file content)

theorem Passable.of_prefix {d : Disk} {names above : List String} (h : d.Passable names)
    (habove : above <+: names) : d.Passable above where
  fits n hn := h.fits n (habove.subset hn)
  free other hother := h.free other (hother.trans habove)

/-- New directories are in nobody's way. -/
theorem Passable.of_grown {made : List String → Prop} {d d' : Disk} {names : List String}
    (h : d.Passable names) (hgrown : Grown made d d') : d'.Passable names where
  fits := h.fits
  free above habove := hgrown.ne_file (h.free above habove)

/-- Whether names can be passed depends on the files of a disk only. -/
theorem passable_congr {d d' : Disk} {names : List String}
    (h : ∀ other content, d'.at? other = some (.file content) ↔ d.at? other = some (.file content)) :
    d'.Passable names ↔ d.Passable names := by
  constructor
  · rintro ⟨hfits, hfree⟩
    exact ⟨hfits, fun above habove content hfile => hfree above habove content ((h _ _).2 hfile)⟩
  · rintro ⟨hfits, hfree⟩
    exact ⟨hfits, fun above habove content hfile => hfree above habove content ((h _ _).1 hfile)⟩

section Way

variable {d : Disk} {names : List String} (hd : d.IsPlaced) (h : ∀ n ∈ names, IsName n)

include h

/-- The last directory on the way is made in the ones above it. -/
theorem ensureDirectory_fromRoot (hpass : d.Passable names) (hstands : d.Stands names) :
    (d.ensureDirectory (fromRoot names)).2 = .ok () := by
  have hplace : d.place (fromRoot names) = .ok names :=
    (place_fromRoot_iff h).2 ⟨rfl, hpass.fits, hstands⟩
  unfold ensureDirectory makeDirectory
  rw [bare_fromRoot h, hplace]
  dsimp only
  cases hat : d.at? names with
  | none => rfl
  | some e =>
      cases e with
      | file content => exact absurd hat (hpass.free names (List.prefix_refl _) content)
      | directory =>
          have hdirectory := isDirectory_iff.2 ⟨names, find_eq_ok_iff.2 ⟨hplace, hat⟩⟩
          dsimp only
          rw [if_pos hdirectory]

/-- Where a path from the root leads to a directory, there are directories all along. -/
theorem at?_of_isDirectory_fromRoot (hdirectory : d.isDirectory (fromRoot names) = true)
    {above : List String} (habove : above <+: names) : d.at? above = some .directory := by
  rcases isDirectory_iff.1 hdirectory with ⟨there, hfind⟩
  rcases find_eq_ok_iff.1 hfind with ⟨hplace, hat⟩
  rcases (place_fromRoot_iff h).1 hplace with ⟨rfl, -, hstands⟩
  by_cases hsame : above = there
  · rw [hsame, hat]
  · exact hstands above habove hsame

theorem stands_of_isDirectory_above (hdirectory : d.isDirectory (fromRoot names.dropLast) = true) :
    d.Stands names := by
  have hupper : ∀ n ∈ names.dropLast, IsName n := fun n hn => h n (List.dropLast_subset _ hn)
  intro above habove hne
  apply at?_of_isDirectory_fromRoot hupper hdirectory
  rcases List.eq_nil_or_concat' names with rfl | ⟨before, last, rfl⟩
  · exact absurd (List.prefix_nil.1 habove) hne
  · rw [List.dropLast_concat]
    exact (List.prefix_concat_iff.1 habove).resolve_left hne

/-- What is there on a free way is a directory. -/
theorem Passable.isDirectory_of_isThere (hpass : d.Passable names)
    (hthere : d.isThere (fromRoot names) = true) : d.isDirectory (fromRoot names) = true := by
  rcases isThere_iff.1 hthere with ⟨there, e, hfind⟩
  rcases find_eq_ok_iff.1 hfind with ⟨hplace, hat⟩
  rcases (place_fromRoot_iff h).1 hplace with ⟨rfl, -, -⟩
  cases e with
  | directory => exact isDirectory_iff.2 ⟨there, hfind⟩
  | file content => exact absurd hat (hpass.free there (List.prefix_refl _) content)

include hd

/-- The way is made if nothing stands in it, by as many steps as there are names. -/
theorem makePathFrom_fromRoot {steps : Nat} (hsteps : names.length ≤ steps)
    (hpass : d.Passable names) : (makePathFrom (steps + 1) d (fromRoot names)).2 = .ok () := by
  -- each step is for one name, and the root above all of them is there
  induction steps generalizing names with
  | zero =>
      have hnil := List.length_eq_zero_iff.1 (Nat.le_zero.1 hsteps)
      subst hnil
      rw [makePathFrom_of_hasAbove 0 (by rw [hasAbove_fromRoot h]; rfl)]
      exact ensureDirectory_fromRoot h hpass (Stands.root d)
  | succ steps ih =>
      have hupper : ∀ n ∈ names.dropLast, IsName n := fun n hn => h n (List.dropLast_subset _ hn)
      have hpassUpper := hpass.of_prefix (List.dropLast_prefix names)
      cases habove : d.hasAbove (fromRoot names) with
      | true =>
          rw [makePathFrom_of_hasAbove _ habove]
          rw [hasAbove_fromRoot h] at habove
          have hdirectory := hpassUpper.isDirectory_of_isThere hupper habove
          exact ensureDirectory_fromRoot h hpass (stands_of_isDirectory_above h hdirectory)
      | false =>
          have hlength : names.dropLast.length ≤ steps := by
            rw [List.length_dropLast]
            omega
          have hmade := ih hupper hlength hpassUpper
          have hgrown := grown_makePathFrom (steps + 1) hd (fromRoot names.dropLast)
          have hdirectory := isDirectory_of_makePathFrom hd hmade
          rw [makePathFrom_of_not_hasAbove _ habove, above_fromRoot h]
          generalize makePathFrom (steps + 1) d (fromRoot names.dropLast) = upper
            at hmade hgrown hdirectory ⊢
          rcases upper with ⟨made, e | _⟩
          · cases hmade
          · exact ensureDirectory_fromRoot h (hpass.of_grown hgrown)
              (stands_of_isDirectory_above h hdirectory)

/-- The way to some names is made exactly if nothing stands in it and no name is too long. -/
theorem makePath_fromRoot_iff :
    (d.makePath (fromRoot names)).2 = .ok () ↔ d.Passable names := by
  constructor
  · intro hok
    have hdirectory := isDirectory_of_makePathFrom hd hok
    rcases isDirectory_iff.1 hdirectory with ⟨there, hfind⟩
    have hplace := (place_fromRoot_iff h).1 (find_eq_ok_iff.1 hfind).1
    refine ⟨hplace.2.1, ?_⟩
    intro above habove content hfile
    -- a file in the way would still be there
    have hstill := (grown_makePath hd (fromRoot names)).at?_eq hfile
    have hmade := at?_of_isDirectory_fromRoot h hdirectory habove
    cases hstill.symm.trans hmade
  · intro hpass
    exact makePathFrom_fromRoot hd h (length_le_length_fromRoot h) hpass

/-- When the way is made there are its directories, and all else is what it was. -/
theorem at?_makePath_fromRoot (hok : (d.makePath (fromRoot names)).2 = .ok ())
    (other : List String) :
    (d.makePath (fromRoot names)).1.at? other =
      if other <+: names then some .directory else d.at? other := by
  split
  · rename_i hfront
    exact at?_of_isDirectory_fromRoot h (isDirectory_of_makePathFrom hd hok) hfront
  · rename_i hfront
    have hconfined : Confined (fun _ => False) (d.LeadsThrough (fromRoot names)) d
        (d.makePath (fromRoot names)).1 := confined_makePath hd (fromRoot names)
    rcases hconfined.outside other id with hsame | ⟨hway, -, -⟩
    · exact hsame
    · exact absurd ((leadsThrough_fromRoot_iff h).1 hway) hfront

theorem directory_makePath_fromRoot_iff (hok : (d.makePath (fromRoot names)).2 = .ok ())
    {other : List String} :
    (d.makePath (fromRoot names)).1.at? other = some .directory ↔
      d.at? other = some .directory ∨ other <+: names := by
  rw [at?_makePath_fromRoot hd h hok]
  split <;> simp [*]

theorem file_makePath_fromRoot_iff (hok : (d.makePath (fromRoot names)).2 = .ok ())
    {other : List String} {content : Octets} :
    (d.makePath (fromRoot names)).1.at? other = some (.file content) ↔
      d.at? other = some (.file content) := by
  rw [at?_makePath_fromRoot hd h hok]
  split
  · rename_i hfront
    have hpass := (makePath_fromRoot_iff hd h).1 hok
    simp [hpass.free other hfront content]
  · exact Iff.rfl

end Way

/-! ## Disks that look alike -/

/-- There are the same things on two disks, and paths start in the same directory. -/
structure Alike (d d' : Disk) : Prop where
  workplace : d'.workplace = d.workplace
  at?_eq : d'.at? = d.at?

namespace Alike

variable {d d' : Disk} {names : List String} {path : String}

theorem put (h : Alike d d') (names : List String) (e : DiskEntry) :
    Alike (d.put names e) (d'.put names e) := by
  refine ⟨h.workplace, funext fun other => ?_⟩
  by_cases hroot : other = []
  · subst hroot
    rfl
  · by_cases hsame : other = names
    · subst hsame
      rw [at?_put_self d' e hroot, at?_put_self d e hroot]
    · rw [at?_put_of_ne d' e hsame, at?_put_of_ne d e hsame, h.at?_eq]

variable (h : Alike d d')

include h

theorem place_eq (path : String) : d'.place path = d.place path := by
  have hfollow : d'.follow = d.follow := by
    funext here segment
    unfold follow
    rw [h.at?_eq]
  unfold place
  rw [hfollow, start_congr h.workplace]

theorem find_eq (path : String) : d'.find path = d.find path := by
  unfold find
  rw [h.place_eq, h.at?_eq]

theorem isThere_eq (path : String) : d'.isThere path = d.isThere path := by
  unfold isThere
  rw [h.find_eq]

theorem isDirectory_eq (path : String) : d'.isDirectory path = d.isDirectory path := by
  unfold isDirectory
  rw [h.find_eq]

/-- A directory is made on both disks, or on none of them for the same reason. -/
theorem ensureDirectory (path : String) :
    (d'.ensureDirectory path).2 = (d.ensureDirectory path).2 ∧
      Alike (d.ensureDirectory path).1 (d'.ensureDirectory path).1 := by
  unfold Disk.ensureDirectory makeDirectory
  rw [h.place_eq, h.isDirectory_eq]
  rcases d.place (bare path) with cause | names
  · dsimp only
    split <;> exact ⟨rfl, h⟩
  · dsimp only
    rw [h.at?_eq]
    rcases d.at? names with _ | e
    · exact ⟨rfl, h.put names .directory⟩
    · dsimp only
      split <;> exact ⟨rfl, h⟩

theorem makePathFrom (steps : Nat) (path : String) :
    (Disk.makePathFrom steps d' path).2 = (Disk.makePathFrom steps d path).2 ∧
      Alike (Disk.makePathFrom steps d path).1 (Disk.makePathFrom steps d' path).1 := by
  induction steps generalizing path with
  | zero => exact ⟨rfl, h⟩
  | succ steps ih =>
      have hsame : d'.hasAbove path = d.hasAbove path := by
        unfold hasAbove
        rw [h.isThere_eq]
      cases habove : d.hasAbove path with
      | true =>
          rw [makePathFrom_of_hasAbove _ habove, makePathFrom_of_hasAbove _ (hsame.trans habove)]
          exact h.ensureDirectory path
      | false =>
          rw [makePathFrom_of_not_hasAbove _ habove,
            makePathFrom_of_not_hasAbove _ (hsame.trans habove)]
          rcases ih (above path) with ⟨hresult, hmade⟩
          -- what is above ends alike, and so the last step is taken on both disks or on none
          generalize Disk.makePathFrom steps d (above path) = upper at hresult hmade ⊢
          generalize Disk.makePathFrom steps d' (above path) = upper' at hresult hmade ⊢
          rcases upper with ⟨made, result⟩
          rcases upper' with ⟨made', result'⟩
          dsimp only at hresult hmade
          subst hresult
          rcases result' with e | _
          · dsimp only
            split
            · exact hmade.ensureDirectory path
            · exact ⟨rfl, hmade⟩
          · exact hmade.ensureDirectory path

theorem makePath (path : String) :
    (d'.makePath path).2 = (d.makePath path).2 ∧
      Alike (d.makePath path).1 (d'.makePath path).1 :=
  h.makePathFrom (path.length + 1) path

/-- What can be written on one disk can be written on the other. -/
theorem write {made : Disk} {content : Octets} (hwrite : d.write path content = .ok made) :
    ∃ made', d'.write path content = .ok made' ∧ Alike made made' := by
  unfold Disk.write at hwrite ⊢
  rw [h.place_eq]
  cases hplace : d.place path with
  | error cause => simp [hplace] at hwrite
  | ok names =>
      simp only [hplace] at hwrite
      dsimp only
      rw [h.at?_eq]
      split at hwrite
      · cases hwrite
      · cases hwrite
        exact ⟨_, rfl, h.put names (.file content)⟩

end Alike

end Disk
end RoleAudit
