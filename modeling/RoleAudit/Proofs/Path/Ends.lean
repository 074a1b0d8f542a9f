import RoleAudit.Proofs.Path.Segments

/-!
# The end of a path

What `parent`, `baseName`, `Disk.bare` and `Disk.above` do to the segments of a path:

- `Path.parent_cases`: the three shapes of a path, by what stands before its last slash;
- `Path.segments_concat_baseName`, `Path.parts_parent`: the last segment and what stands before it;
- `Path.parent_fromRoot`, `Path.segments_fromRoot`: what stands above the path through some names, and
  its segments;
- `Disk.above_eq`: what stands above a path is the parent of the path without its slashes at the end;
- `Disk.parts_eq_above_concat`: the parts of a path are those above it and its last name.
-/

namespace RoleAudit
namespace Path

theorem ne_slash_of_mem_reverse {s : String} (h : '/' ∉ s.toList) :
    ∀ c ∈ s.toList.reverse, (c != '/') = true := by
  intro c hc
  simp only [bne_iff_ne, ne_eq]
  rintro rfl
  exact h (List.mem_reverse.1 hc)

theorem baseName_of_not_mem {path : String} (h : '/' ∉ path.toList) : baseName path = path := by
  unfold baseName
  rw [List.takeWhile_eq_self_iff.2 (ne_slash_of_mem_reverse h), List.reverse_reverse,
    String.ofList_toList]

theorem parent_of_not_mem {path : String} (h : '/' ∉ path.toList) : parent path = "" := by
  have hnone : path.toList.reverse.dropWhile (· != '/') = [] :=
    List.dropWhile_eq_nil_iff.2 (ne_slash_of_mem_reverse h)
  unfold parent
  rw [hnone]
  rfl

/--
A path has no slash, or something stands before its last slash, or nothing but slashes does. What
stands there is given backwards.
-/
theorem parent_cases (path : String) :
    ('/' ∉ path.toList ∧ parent path = "" ∧ baseName path = path) ∨
      ∃ cs : List Char, path = String.ofList cs.reverse ++ "/" ++ baseName path ∧
        ((cs.dropWhile (· == '/') ≠ [] ∧
            parent path = String.ofList (cs.dropWhile (· == '/')).reverse) ∨
          (cs.dropWhile (· == '/') = [] ∧ parent path = String.ofList ('/' :: cs).reverse)) := by
  by_cases hslash : '/' ∈ path.toList
  · right
    have hmem : '/' ∈ path.toList.reverse := List.mem_reverse.2 hslash
    have hne : path.toList.reverse.dropWhile (· != '/') ≠ [] := by
      intro hnil
      exact absurd (List.dropWhile_eq_nil_iff.1 hnil _ hmem) (by simp)
    rcases List.exists_cons_of_ne_nil hne with ⟨c, cs, hhead⟩
    have hc : c = '/' := by
      have hnot := List.head?_dropWhile_not (· != '/') path.toList.reverse
      rw [hhead] at hnot
      simpa using hnot
    subst hc
    -- what is dropped backwards from the last slash on is all before it
    have hwhole : path = String.ofList cs.reverse ++ "/" ++ baseName path := by
      have hsplit := List.takeWhile_append_dropWhile (p := (· != '/')) (l := path.toList.reverse)
      rw [hhead] at hsplit
      have hreverse := congrArg List.reverse hsplit
      rw [← String.toList_inj]
      unfold baseName
      simpa using hreverse.symm
    refine ⟨cs, hwhole, ?_⟩
    unfold parent
    rw [hhead]
    dsimp only
    by_cases hall : cs.dropWhile (· == '/') = []
    · exact Or.inr ⟨hall, by simp [hall]⟩
    · exact Or.inl ⟨hall, by simp [hall]⟩
  · exact Or.inl ⟨hslash, parent_of_not_mem hslash, baseName_of_not_mem hslash⟩

theorem not_mem_baseName (path : String) : '/' ∉ (baseName path).toList := by
  unfold baseName
  rw [String.toList_ofList, List.mem_reverse]
  intro hslash
  simpa using List.mem_takeWhile_imp hslash

/-- The last segment of a path is its last name. -/
theorem segments_concat_baseName (path : String) :
    ∃ before, segments path = before ++ [baseName path] := by
  have hlast := segments_of_not_mem (not_mem_baseName path)
  rcases parent_cases path with ⟨hslash, -, hbase⟩ | ⟨cs, hpath, -⟩
  · refine ⟨[], ?_⟩
    rw [hbase, List.nil_append]
    exact segments_of_not_mem hslash
  · refine ⟨segments (String.ofList cs.reverse), ?_⟩
    rw [← hlast, ← segments_append, ← hpath]

/-- The parts of a path are those of its parent and its last name. -/
theorem parts_parent (path : String) : parts path = parts (parent path) ++ parts (baseName path) := by
  rcases parent_cases path with ⟨-, hparent, hbase⟩ | ⟨cs, hpath, hparent⟩
  · rw [hparent, hbase, parts_empty, List.nil_append]
  · have hhead : parts (parent path) = parts (String.ofList cs.reverse) := by
      rcases hparent with ⟨-, hparent⟩ | ⟨hall, hparent⟩
      · rw [hparent, parts_dropWhile_slash]
      · -- one more slash adds no part
        have hcons := parts_dropWhile_slash ('/' :: cs)
        rw [List.dropWhile_cons_of_pos (by rfl), parts_dropWhile_slash] at hcons
        rw [hparent, ← hcons]
    rw [hhead, ← parts_append, ← hpath]

/-! ## Paths from the root -/

section FromRoot

variable {names : List String}

theorem joinWith_concat {sep last : String} {before : List String} (h : before ≠ []) :
    Text.joinWith sep (before ++ [last]) = Text.joinWith sep before ++ sep ++ last := by
  induction before with
  | nil => exact absurd rfl h
  | cons s rest ih =>
      cases rest with
      | nil => rfl
      | cons t rest =>
          have hrest := ih (List.cons_ne_nil t rest)
          simp only [List.cons_append, Text.joinWith] at hrest ⊢
          rw [hrest]
          simp only [String.append_assoc]

/-- Where the last name begins on a path from the root. -/
theorem fromRoot_concat (before : List String) (last : String) :
    fromRoot (before ++ [last]) =
      (if before = [] then "" else fromRoot before) ++ "/" ++ last := by
  unfold fromRoot
  split
  · rename_i hnil
    subst hnil
    rfl
  · rename_i hne
    rw [joinWith_concat hne]
    simp only [String.append_assoc]

/-- A path through names does not end in a slash. -/
theorem dropWhile_slash_fromRoot (h : ∀ n ∈ names, IsName n) (hne : names ≠ []) :
    (fromRoot names).toList.reverse.dropWhile (· == '/') = (fromRoot names).toList.reverse := by
  rcases List.eq_nil_or_concat' names with rfl | ⟨before, last, rfl⟩
  · exact absurd rfl hne
  · have hlast : IsName last := h last (by simp)
    have hchars : last.toList.reverse ≠ [] := by simpa using hlast.1
    rcases List.exists_cons_of_ne_nil hchars with ⟨c, cs, hreverse⟩
    have hc : c ≠ '/' := by
      rintro rfl
      exact hlast.2.2.2 (List.mem_reverse.1 (hreverse ▸ List.mem_cons_self))
    rw [fromRoot_concat, String.toList_append, List.reverse_append, hreverse, List.cons_append,
      List.dropWhile_cons_of_neg (by simpa using hc)]

theorem parent_append_slash (front : String) {last : String} (hlast : '/' ∉ last.toList) :
    parent (front ++ "/" ++ last) =
      if front.toList.reverse.dropWhile (· == '/') = [] then front ++ "/"
      else String.ofList (front.toList.reverse.dropWhile (· == '/')).reverse := by
  have hhead : (front ++ "/" ++ last).toList.reverse.dropWhile (· != '/') =
      '/' :: front.toList.reverse := by
    simp only [String.toList_append, List.reverse_append]
    rw [List.dropWhile_append_of_pos (ne_slash_of_mem_reverse hlast)]
    rfl
  unfold parent
  rw [hhead]
  dsimp only
  rw [List.dropWhile_cons_of_pos (by rfl)]
  by_cases hnil : front.toList.reverse.dropWhile (· == '/') = []
  · rw [if_pos (by simpa using hnil), if_pos hnil, ← String.toList_inj]
    simp
  · rw [if_neg (by simpa using hnil), if_neg hnil]

/-- Above the path through some names is the path through all of them but the last. -/
theorem parent_fromRoot (h : ∀ n ∈ names, IsName n) :
    parent (fromRoot names) = fromRoot names.dropLast := by
  rcases List.eq_nil_or_concat' names with rfl | ⟨before, last, rfl⟩
  · decide
  · have hlast : IsName last := h last (by simp)
    have hbefore : ∀ n ∈ before, IsName n := fun n hn => h n (List.mem_append_left _ hn)
    rw [fromRoot_concat, List.dropLast_concat, parent_append_slash _ hlast.2.2.2]
    split
    · rename_i hnil
      subst hnil
      rfl
    · rename_i hne
      have hnonempty : (fromRoot before).toList.reverse ≠ [] := by
        simpa using fromRoot_ne_empty before
      rw [dropWhile_slash_fromRoot hbefore hne, if_neg hnonempty]
      simp

theorem segments_fromRoot (h : ∀ n ∈ names, IsName n) :
    segments (fromRoot names) = "" :: if names = [] then [""] else names := by
  split
  · rename_i hnil
    subst hnil
    decide
  · rename_i hne
    have hjoined : fromRoot names = "" ++ "/" ++ Text.joinWith "/" names := by simp [fromRoot]
    rw [hjoined, segments_append, segments_joinWith hne fun n hn => (h n hn).2.2.2]
    rfl

/-- A path has no more names than characters. -/
theorem length_le_length_fromRoot (h : ∀ n ∈ names, IsName n) :
    names.length ≤ (fromRoot names).length := by
  induction names using List.reverseRecOn with
  | nil => exact Nat.zero_le _
  | append_singleton before last ih =>
      have hbefore := ih fun n hn => h n (List.mem_append_left _ hn)
      rw [fromRoot_concat, String.length_append, String.length_append, List.length_append,
        List.length_singleton]
      have hslash : "/".length = 1 := by decide
      split
      · rename_i hnil
        subst hnil
        simp [hslash]
      · omega

/-- Above the path through some names stand all of them but the last. -/
theorem parts_parent_fromRoot (h : ∀ n ∈ names, IsName n) :
    parts (parent (fromRoot names)) = names.dropLast := by
  rw [parent_fromRoot h]
  exact parts_fromRoot fun n hn => h n (List.dropLast_subset names hn)

end FromRoot

end Path

namespace Disk

open RoleAudit.Path

/-- What stands above a path is the parent of the path without its slashes at the end. -/
theorem above_eq (path : String) : above path = parent (bare path) := by
  have hpath : String.ofList path.toList.reverse.reverse = path := by simp
  cases hlast : path.toList.reverse with
  | nil =>
      have hempty : path = "" := by simpa using hlast
      subst hempty
      decide
  | cons c cs =>
      by_cases hc : c = '/'
      · -- a slash at the end is dropped by both
        subst hc
        have hbase : (baseName path).isEmpty = true := by
          unfold baseName
          rw [hlast]
          rfl
        have hparent : parent path = bare path := by
          have hwhole : path = String.ofList ('/' :: cs).reverse := by rw [← hlast, hpath]
          unfold parent bare
          rw [hlast, List.dropWhile_cons_of_neg (by simp)]
          dsimp only
          split
          · exact hwhole.symm
          · rfl
        unfold above
        rw [if_pos hbase, hparent]
      · have hbase : (baseName path).isEmpty = false := by
          unfold baseName
          rw [hlast]
          simp [hc]
        have hbare : bare path = path := by
          unfold bare
          rw [hlast]
          dsimp only
          rw [List.dropWhile_cons_of_neg (by simpa using hc)]
          rw [← hlast, hpath]
          simp
        unfold above
        rw [hbare, hbase]
        rfl

/-- A path with parts has its last one at the end, when the slashes there are dropped. -/
theorem baseName_bare_ne_empty {path : String} (h : parts path ≠ []) :
    baseName (bare path) ≠ "" := by
  have hpath : String.ofList path.toList.reverse.reverse = path := by simp
  -- if nothing is left without the slashes, the path has no parts
  have hne : path.toList.reverse.dropWhile (· == '/') ≠ [] := by
    intro hnil
    have hparts := parts_dropWhile_slash path.toList.reverse
    rw [hnil, hpath] at hparts
    exact h (hparts.symm.trans parts_empty)
  rcases List.exists_cons_of_ne_nil hne with ⟨c, cs, hrest⟩
  have hc : c ≠ '/' := by
    have hnot := List.head?_dropWhile_not (· == '/') path.toList.reverse
    rw [hrest] at hnot
    simpa using hnot
  have hbare : bare path = String.ofList (c :: cs).reverse := by
    unfold bare
    rw [hrest]
    rfl
  unfold baseName
  rw [hbare, String.toList_ofList, List.reverse_reverse,
    List.takeWhile_cons_of_pos (by simpa using hc)]
  simp

/-- Slashes at the end of a path are no parts. -/
theorem parts_bare (path : String) : parts (bare path) = parts path := by
  unfold bare
  dsimp only
  split
  · rfl
  · rw [parts_dropWhile_slash]
    simp

/-- The parts of a path are those above it and its last name. -/
theorem parts_eq_above_concat {path : String} (h : parts path ≠ []) :
    parts path = parts (above path) ++ [baseName (bare path)] := by
  have hlast : parts (baseName (bare path)) = [baseName (bare path)] := by
    unfold parts
    rw [segments_of_not_mem (not_mem_baseName _)]
    simpa [String.isEmpty_iff] using baseName_bare_ne_empty h
  rw [above_eq, ← hlast, ← parts_parent, parts_bare]

theorem bare_fromRoot {names : List String} (h : ∀ n ∈ names, IsName n) :
    bare (fromRoot names) = fromRoot names := by
  by_cases hne : names = []
  · subst hne
    decide
  · unfold bare
    rw [dropWhile_slash_fromRoot h hne]
    simp

theorem above_fromRoot {names : List String} (h : ∀ n ∈ names, IsName n) :
    above (fromRoot names) = fromRoot names.dropLast := by
  rw [above_eq, bare_fromRoot h, parent_fromRoot h]

end Disk
end RoleAudit
