import Mathlib.Data.List.TakeWhile
import RoleAudit.Disk
import RoleAudit.Proofs.Text.Pieces

/-!
# Segments and parts of paths

What the operations on paths do to the list of their segments:

- `Path.segments_joinWith`, `Path.parts_fromRoot`: names that are joined can be told apart again;
- `Path.IsName`: a segment that stays when a path is resolved;
- `Path.resolveSegments_append`, `Path.isName_resolveSegments`: resolving stretch by stretch, and
  what comes out of it;
- `Path.resolveSegments_split`: names that come out were there before or are segments themselves;
- `Path.names_join`, `Path.exists_names_join`: the names of a joined path;
- `Path.Begins`: what is left of a path when its end is cut off, as `Disk.above` and `Disk.bare` do.
-/

namespace RoleAudit

/-! ## Segments -/

namespace Path

/-- A segment that stays when a path is resolved. -/
def IsName (s : String) : Prop :=
  s ≠ "" ∧ s ≠ "." ∧ s ≠ ".." ∧ '/' ∉ s.toList

instance : DecidablePred IsName := fun s => by
  unfold IsName
  infer_instance

theorem segments_append (a b : String) : segments (a ++ "/" ++ b) = segments a ++ segments b := by
  have hlist : (a ++ "/" ++ b).toList = a.toList ++ '/' :: b.toList := by simp
  unfold segments Text.splitAt
  rw [hlist, Text.pieces_append (by rfl), List.map_append]

theorem segments_of_not_mem {s : String} (h : '/' ∉ s.toList) : segments s = [s] := by
  have hpieces : Text.pieces (· == '/') s.toList = [s.toList] := by
    refine Text.pieces_of_not_mem fun c hc hslash => h ?_
    exact (beq_iff_eq.1 hslash) ▸ hc
  unfold segments Text.splitAt
  rw [hpieces, List.map_singleton, String.ofList_toList]

theorem not_mem_of_mem_segments {s path : String} (h : s ∈ segments path) : '/' ∉ s.toList := by
  rcases List.mem_map.1 h with ⟨piece, hpiece, rfl⟩
  rw [String.toList_ofList]
  exact fun hslash => Text.not_mem_of_mem_pieces hpiece '/' hslash (by rfl)

/-- Names that are joined can be told apart again. -/
theorem segments_joinWith {names : List String} (hne : names ≠ [])
    (h : ∀ n ∈ names, '/' ∉ n.toList) : segments (Text.joinWith "/" names) = names :=
  Text.splitAt_joinWith (by rfl) hne h

/-! ## Parts -/

theorem parts_append (a b : String) : parts (a ++ "/" ++ b) = parts a ++ parts b := by
  unfold parts
  rw [segments_append, List.filter_append]

theorem parts_empty : parts "" = [] := by decide

/-- The parts of the path through some names are these names. -/
theorem parts_fromRoot {names : List String} (h : ∀ n ∈ names, IsName n) :
    parts (fromRoot names) = names := by
  have hjoined : fromRoot names = "" ++ "/" ++ Text.joinWith "/" names := by simp [fromRoot]
  rw [hjoined, parts_append, parts_empty, List.nil_append]
  cases names with
  | nil => exact parts_empty
  | cons n rest =>
      unfold parts
      rw [segments_joinWith (List.cons_ne_nil n rest) fun m hm => (h m hm).2.2.2]
      refine List.filter_eq_self.2 fun m hm => ?_
      simpa [String.isEmpty_iff] using (h m hm).1

theorem isAbsolute_fromRoot (names : List String) : isAbsolute (fromRoot names) = true := by
  simp [isAbsolute, fromRoot, Text.startsWith]

theorem ne_empty_of_isAbsolute {path : String} (h : isAbsolute path = true) : path ≠ "" := by
  rintro rfl
  exact absurd h (by decide)

theorem fromRoot_ne_empty (names : List String) : fromRoot names ≠ "" :=
  ne_empty_of_isAbsolute (isAbsolute_fromRoot names)

theorem fromRoot_injective {names names' : List String} (h : ∀ n ∈ names, IsName n)
    (h' : ∀ n ∈ names', IsName n) (heq : fromRoot names = fromRoot names') : names = names' := by
  rw [← parts_fromRoot h, ← parts_fromRoot h', heq]

/-- A path that goes on after another one and a slash has more names. -/
theorem prefix_of_startsWith {root names : List String} (hroot : ∀ n ∈ root, IsName n)
    (hnames : ∀ n ∈ names, IsName n)
    (h : Text.startsWith (fromRoot names) (fromRoot root ++ "/") = true) : root <+: names := by
  have hfront : (fromRoot root ++ "/").toList <+: (fromRoot names).toList :=
    List.isPrefixOf_iff_prefix.1 h
  rcases hfront with ⟨rest, hrest⟩
  have htarget : fromRoot names = fromRoot root ++ "/" ++ String.ofList rest := by
    rw [← String.toList_inj, ← hrest]
    simp
  have hparts := congrArg parts htarget
  rw [parts_append, parts_fromRoot hnames, parts_fromRoot hroot] at hparts
  exact ⟨parts (String.ofList rest), hparts.symm⟩

/-- Slashes at the end of a path add no parts. -/
theorem parts_dropWhile_slash (cs : List Char) :
    parts (String.ofList (cs.dropWhile (· == '/')).reverse) = parts (String.ofList cs.reverse) := by
  induction cs with
  | nil => rfl
  | cons c rest ih =>
      rw [List.dropWhile_cons]
      split
      · rename_i hc
        have hjoined : String.ofList (c :: rest).reverse =
            String.ofList rest.reverse ++ "/" ++ "" := by
          rw [beq_iff_eq.1 hc, ← String.toList_inj]
          simp
        rw [ih, hjoined, parts_append, parts_empty, List.append_nil]
      · rfl

/-! ## Resolving -/

theorem resolveSegments_skip (rooted : Bool) (done : List String) {s : String} (rest : List String)
    (h : s = "" ∨ s = ".") :
    resolveSegments rooted done (s :: rest) = resolveSegments rooted done rest := by
  rw [resolveSegments.eq_def]
  simp [h]

theorem resolveSegments_up_nil (rest : List String) :
    resolveSegments true [] (".." :: rest) = resolveSegments true [] rest := by
  rw [resolveSegments.eq_def]
  simp

theorem resolveSegments_up_cons (rooted : Bool) {last : String} (others rest : List String)
    (h : last ≠ "..") :
    resolveSegments rooted (last :: others) (".." :: rest) =
      resolveSegments rooted others rest := by
  rw [resolveSegments.eq_def]
  simp [h]

theorem resolveSegments_name (rooted : Bool) (done : List String) {s : String} (rest : List String)
    (hplain : ¬(s = "" ∨ s = ".")) (hup : s ≠ "..") :
    resolveSegments rooted done (s :: rest) = resolveSegments rooted (s :: done) rest := by
  rw [resolveSegments.eq_def]
  simp [hplain, hup]

theorem resolveSegments_append (rooted : Bool) (done a b : List String) :
    resolveSegments rooted done (a ++ b) =
      resolveSegments rooted (resolveSegments rooted done a).reverse b := by
  fun_induction resolveSegments rooted done a <;> simp_all [resolveSegments]

/-- Empty segments do not count. -/
theorem resolveSegments_filter (rooted : Bool) (done segs : List String) :
    resolveSegments rooted done (segs.filter fun s => !s.isEmpty) =
      resolveSegments rooted done segs := by
  induction segs generalizing done with
  | nil => rfl
  | cons s rest ih =>
      by_cases hs : s = ""
      · subst hs
        -- the empty segment vanishes on the left by the filter and on the right by the rule
        rw [List.filter_cons_of_neg (by decide), ih, resolveSegments_skip _ _ _ (Or.inl rfl)]
      · have hfilter : (s :: rest).filter (fun s => !s.isEmpty) =
            s :: rest.filter fun s => !s.isEmpty :=
          List.filter_cons_of_pos (by simpa [String.isEmpty_iff] using hs)
        rw [hfilter, resolveSegments.eq_def, resolveSegments.eq_def rooted done (s :: rest)]
        simp only [ih]

theorem names_eq_parts (path : String) : names path = resolveSegments true [] (parts path) :=
  (resolveSegments_filter true [] (segments path)).symm

/-- What stays of segments without slashes are names. -/
theorem isName_resolveSegments {done segs : List String} (hdone : ∀ n ∈ done, IsName n)
    (hsegs : ∀ s ∈ segs, '/' ∉ s.toList) : ∀ n ∈ resolveSegments true done segs, IsName n := by
  induction segs generalizing done with
  | nil =>
      intro n hn
      exact hdone n (List.mem_reverse.1 hn)
  | cons s rest ih =>
      have hrest : ∀ t ∈ rest, '/' ∉ t.toList := fun t ht => hsegs t (List.mem_cons_of_mem s ht)
      by_cases hplain : s = "" ∨ s = "."
      · rw [resolveSegments_skip true done rest hplain]
        exact ih hdone hrest
      · by_cases hup : s = ".."
        · subst hup
          -- going up takes back a name or stays at the root, since no name kept is `..`
          cases done with
          | nil =>
              rw [resolveSegments_up_nil]
              exact ih hdone hrest
          | cons last others =>
              rw [resolveSegments_up_cons true others rest (hdone last List.mem_cons_self).2.2.1]
              exact ih (fun n hn => hdone n (List.mem_cons_of_mem last hn)) hrest
        · have hname : IsName s :=
            ⟨fun h => hplain (Or.inl h), fun h => hplain (Or.inr h), hup,
              hsegs s List.mem_cons_self⟩
          rw [resolveSegments_name true done rest hplain hup]
          exact ih (List.forall_mem_cons.2 ⟨hname, hdone⟩) hrest

theorem isName_names (path : String) : ∀ n ∈ names path, IsName n :=
  isName_resolveSegments (fun _ h => absurd h List.not_mem_nil)
    fun _ h => not_mem_of_mem_segments h

/-- Where nothing goes up, all segments stay but the empty ones and single dots. -/
theorem resolveSegments_of_not_mem (rooted : Bool) {segs : List String} (done : List String)
    (h : ".." ∉ segs) :
    resolveSegments rooted done segs =
      done.reverse ++ segs.filter fun s => !(s == "" || s == ".") := by
  induction segs generalizing done with
  | nil => simp [resolveSegments]
  | cons s rest ih =>
      rcases not_or.1 fun hor => h (List.mem_cons.2 hor) with ⟨hup, hrest⟩
      by_cases hplain : s = "" ∨ s = "."
      · rw [resolveSegments_skip rooted done rest hplain, ih done hrest,
          List.filter_cons_of_neg (by simpa [or_iff_not_imp_left] using hplain)]
      · rw [resolveSegments_name rooted done rest hplain fun hs => hup hs.symm, ih (s :: done) hrest,
          List.filter_cons_of_pos (by simpa using hplain), List.reverse_cons, List.append_assoc,
          List.singleton_append]

/-- Names stay when they are resolved. -/
theorem resolveSegments_of_isName (rooted : Bool) {segs : List String} (done : List String)
    (h : ∀ s ∈ segs, IsName s) : resolveSegments rooted done segs = done.reverse ++ segs := by
  have hall : segs.filter (fun s => !(s == "" || s == ".")) = segs := by
    apply List.filter_eq_self.2
    intro s hs
    simp [(h s hs).1, (h s hs).2.1]
  rw [resolveSegments_of_not_mem rooted done fun hup => (h _ hup).2.2.1 rfl, hall]

theorem names_fromRoot {names : List String} (h : ∀ n ∈ names, IsName n) :
    Path.names (fromRoot names) = names := by
  rw [names_eq_parts, parts_fromRoot h, resolveSegments_of_isName true [] h]
  rfl

/-- What comes out goes on with segments of its own from where the names that stay end. -/
theorem resolveSegments_split {done : List String} (hdone : ∀ n ∈ done, n ≠ "..")
    (segs : List String) :
    ∃ kept new, resolveSegments true done segs = kept ++ new ∧ kept <+: done.reverse ∧
      ∀ n ∈ new, n ∈ segs := by
  induction segs generalizing done with
  | nil => exact ⟨done.reverse, [], by simp [resolveSegments], List.prefix_refl _, by simp⟩
  | cons s rest ih =>
      by_cases hplain : s = "" ∨ s = "."
      · rcases ih hdone with ⟨kept, new, hsplit, hkept, hnew⟩
        rw [resolveSegments_skip true done rest hplain]
        exact ⟨kept, new, hsplit, hkept, fun n hn => List.mem_cons_of_mem s (hnew n hn)⟩
      · by_cases hup : s = ".."
        · subst hup
          cases done with
          | nil =>
              rcases ih hdone with ⟨kept, new, hsplit, hkept, hnew⟩
              rw [resolveSegments_up_nil]
              exact ⟨kept, new, hsplit, hkept, fun n hn => List.mem_cons_of_mem _ (hnew n hn)⟩
          | cons last others =>
              have hothers : ∀ n ∈ others, n ≠ ".." := fun n hn =>
                hdone n (List.mem_cons_of_mem last hn)
              rcases ih hothers with ⟨kept, new, hsplit, hkept, hnew⟩
              rw [resolveSegments_up_cons true others rest (hdone last List.mem_cons_self)]
              refine ⟨kept, new, hsplit, ?_, fun n hn => List.mem_cons_of_mem _ (hnew n hn)⟩
              rw [List.reverse_cons]
              exact hkept.trans (List.prefix_append _ _)
        · rcases ih (List.forall_mem_cons.2 ⟨hup, hdone⟩) with ⟨kept, new, hsplit, hkept, hnew⟩
          rw [resolveSegments_name true done rest hplain hup, hsplit]
          rw [List.reverse_cons, List.prefix_concat_iff] at hkept
          -- the segment itself is new, whether it stays or not
          rcases hkept with rfl | hkept
          · refine ⟨done.reverse, s :: new, by simp, List.prefix_refl _, ?_⟩
            simp only [List.mem_cons]
            rintro n (rfl | hn)
            · exact Or.inl rfl
            · exact Or.inr (hnew n hn)
          · exact ⟨kept, new, rfl, hkept, fun n hn => List.mem_cons_of_mem s (hnew n hn)⟩

/-- One more segment changes the last name only, or takes it back. -/
theorem dropLast_resolveSegments_concat (done segs : List String) (s : String) :
    (resolveSegments true done (segs ++ [s])).dropLast <+: resolveSegments true done segs := by
  rw [resolveSegments_append]
  generalize resolveSegments true done segs = before
  have hshorter : before.dropLast <+: before := List.dropLast_prefix before
  by_cases hplain : s = "" ∨ s = "."
  · rw [resolveSegments_skip true _ [] hplain]
    simpa [resolveSegments] using hshorter
  · by_cases hup : s = ".."
    · subst hup
      -- at the root there is nothing to take back
      rcases List.eq_nil_or_concat before with rfl | ⟨firsts, last, rfl⟩
      · simp [resolveSegments]
      · by_cases hlast : last = ".."
        · simp [resolveSegments, hlast]
        · simpa [resolveSegments, hlast] using
            (List.dropLast_prefix firsts).trans (List.prefix_append firsts [last])
    · rw [resolveSegments_name true _ [] hplain hup]
      simp [resolveSegments]

/-- The parts of a relative path come after those of its base. -/
theorem parts_join {base path : String} (h : isAbsolute path = false) :
    parts (join base path) = parts base ++ parts path := by
  unfold join
  rw [h, if_neg Bool.false_ne_true]
  by_cases hempty : base = ""
  · subst hempty
    simp [parts_empty]
  · by_cases hslash : Text.endsWith base "/" = true
    · have hsuffix : "/".toList <:+ base.toList := by
        simpa [Text.endsWith] using hslash
      rcases hsuffix with ⟨before, hbefore⟩
      -- the slash at the end of the base stands for the one that is not put in
      have hbase : base = String.ofList before ++ "/" ++ "" := by
        rw [← String.toList_inj, ← hbefore]
        simp
      have hwhole : base ++ path = String.ofList before ++ "/" ++ path := by
        rw [hbase]
        simp
      rw [if_pos (by simp [hslash]), hwhole, parts_append, hbase, parts_append, parts_empty,
        List.append_nil]
    · rw [if_neg (by simp [hslash, hempty]), parts_append]

/-- A relative path goes on from where its base ends. -/
theorem names_join {base path : String} (h : isAbsolute path = false) :
    names (join base path) = resolveSegments true (names base).reverse (parts path) := by
  rw [names_eq_parts, names_eq_parts, parts_join h, resolveSegments_append]

/-- An absolute path stands alone. -/
theorem join_of_isAbsolute (base : String) {path : String} (h : isAbsolute path = true) :
    join base path = path := by
  rw [join, if_pos h]

/-- A path below a root starts at the root, or at the root of all. -/
theorem exists_names_join {root : List String} (h : ∀ n ∈ root, IsName n) (path : String) :
    ∃ base, base <+: root ∧
      names (join (fromRoot root) path) = resolveSegments true base.reverse (parts path) := by
  cases habsolute : isAbsolute path with
  | true => exact ⟨[], List.nil_prefix, by rw [join_of_isAbsolute _ habsolute, names_eq_parts]; rfl⟩
  | false => exact ⟨root, List.prefix_refl root, by rw [names_join habsolute, names_fromRoot h]⟩

/-! ## Cutting off the end -/

/-- The path that is left begins the path, and its parts begin the parts. -/
structure Begins (left path : String) : Prop where
  text : left.toList <+: path.toList
  parts : Path.parts left <+: Path.parts path

namespace Begins

theorem refl (path : String) : Begins path path :=
  ⟨List.prefix_refl _, List.prefix_refl _⟩

theorem trans {a b c : String} (hab : Begins a b) (hbc : Begins b c) : Begins a c :=
  ⟨hab.text.trans hbc.text, hab.parts.trans hbc.parts⟩

/-- What is left of a path is absolute exactly if the path is. -/
theorem isAbsolute_eq {left path : String} (h : Begins left path) (hne : left ≠ "") :
    isAbsolute left = isAbsolute path := by
  rcases h.text with ⟨rest, hrest⟩
  have hchars : left.toList ≠ [] := by simpa using hne
  unfold isAbsolute Text.startsWith
  rw [← hrest]
  -- a slash at the start is the first character of both
  cases hleft : left.toList with
  | nil => exact absurd hleft hchars
  | cons c cs => simp [List.isPrefixOf]

end Begins

/-- A path begins with what stands before one of its slashes. -/
theorem begins_of_slash {path : String} {before after : List Char}
    (h : path.toList = before ++ '/' :: after) :
    Begins (String.ofList (before ++ ['/'])) path := by
  have hleft : String.ofList (before ++ ['/']) = String.ofList before ++ "/" ++ "" := by
    rw [← String.toList_inj]
    simp
  have hpath : path = String.ofList before ++ "/" ++ String.ofList after := by
    rw [← String.toList_inj, h]
    simp
  refine ⟨?_, ?_⟩
  · rw [h, String.toList_ofList]
    exact ⟨after, by simp⟩
  · rw [hleft, hpath, parts_append, parts_append, parts_empty, List.append_nil]
    exact List.prefix_append _ _

/-- A path begins with what is left without the slashes at its end. -/
theorem begins_dropWhile_slash (cs : List Char) :
    Begins (String.ofList (cs.dropWhile (· == '/')).reverse) (String.ofList cs.reverse) := by
  refine ⟨?_, (parts_dropWhile_slash cs) ▸ List.prefix_refl _⟩
  rw [String.toList_ofList, String.toList_ofList, List.reverse_prefix]
  exact List.dropWhile_suffix _

theorem begins_parent (path : String) : Begins (parent path) path := by
  have hsuffix := List.dropWhile_suffix (· != '/') (l := path.toList.reverse)
  unfold parent
  dsimp only
  cases hhead : path.toList.reverse.dropWhile (· != '/') with
  | nil => exact ⟨by simp, by simp [parts_empty]⟩
  | cons c cs =>
      -- what is dropped ends at the last slash, so the head ends with one
      have hc : c = '/' := by
        have hnot := List.head?_dropWhile_not (· != '/') path.toList.reverse
        rw [hhead] at hnot
        simpa using hnot
      rw [hhead, hc] at hsuffix
      rcases hsuffix with ⟨after, hafter⟩
      have hpath : path.toList = cs.reverse ++ '/' :: after.reverse := by
        have hreverse := congrArg List.reverse hafter
        simpa using hreverse.symm
      have hbegins : Begins (String.ofList (c :: cs).reverse) path := by
        rw [hc, List.reverse_cons]
        exact begins_of_slash hpath
      split
      · exact hbegins
      · exact (begins_dropWhile_slash (c :: cs)).trans hbegins

/-- What stands above an absolute path is one. -/
theorem isAbsolute_parent {path : String} (h : isAbsolute path = true) :
    isAbsolute (parent path) = true := by
  -- there is a slash in the path, so something stands before or at the last one
  have hne : parent path ≠ "" := by
    intro hempty
    have hslash : '/' ∈ path.toList.reverse := by
      have hfront : "/".toList <+: path.toList := by simpa [isAbsolute, Text.startsWith] using h
      exact List.mem_reverse.2 (hfront.subset (by simp))
    have hhead : path.toList.reverse.dropWhile (· != '/') ≠ [] := by
      intro hnil
      exact absurd (List.dropWhile_eq_nil_iff.1 hnil _ hslash) (by simp)
    unfold parent at hempty
    dsimp only at hempty
    split at hempty
    · exact hhead (by simpa using hempty)
    · rename_i htrimmed
      exact htrimmed (by simpa using hempty)
  rw [(begins_parent path).isAbsolute_eq hne, h]

end Path

namespace Disk

open RoleAudit.Path

theorem begins_bare (path : String) : Begins (bare path) path := by
  unfold bare
  dsimp only
  split
  · exact Begins.refl path
  · have hpath : String.ofList path.toList.reverse.reverse = path := by simp
    have hbegins := begins_dropWhile_slash path.toList.reverse
    rw [hpath] at hbegins
    exact hbegins

theorem begins_above (path : String) : Begins (above path) path := by
  unfold above
  split
  · exact (begins_parent _).trans (begins_parent path)
  · exact begins_parent path

end Disk

end RoleAudit
