import RoleAudit.Proofs.Disk.Changes

/-!
# Routes

A path is often put together: some texts are joined to a base, one after the other. Whether it stays
below a directory can be told from the texts.

- `Disk.namesAt_normalize`: the normal form of a path is written for the same names;
- `staysBelow`: segments that go up no further than they have come down;
- `Plain`: segments of which at most the first one goes up;
- `Disk.LiesBelow`: a path is written for names below those of another one;
- `Route`, `Route.KeepsBelow`: a path that is put together, and what keeps it below a directory;
- `Route.liesBelow`: it then lies there;
- `Route.keepsBelow_of_plain`: plain segments in a directory keep below the one around it.
-/

namespace RoleAudit

namespace Path

/-! ## Normal forms -/

/-- Segments that are resolved can be resolved again, from wherever they start. -/
theorem resolveSegments_resolveSegments (done kept segs : List String)
    (hkept : ∀ n ∈ kept, ¬(n = "" ∨ n = ".")) :
    resolveSegments true done (resolveSegments false kept segs) =
      resolveSegments true done (kept.reverse ++ segs) := by
  -- the induction carries what is kept, of which nothing vanishes
  induction segs generalizing kept with
  | nil => simp [resolveSegments]
  | cons s rest ih =>
      by_cases hplain : s = "" ∨ s = "."
      · rw [resolveSegments_skip false kept rest hplain, ih kept hkept, resolveSegments_append,
          resolveSegments_append, resolveSegments_skip true _ rest hplain]
      · have hpush := ih (s :: kept) (List.forall_mem_cons.2 ⟨hplain, hkept⟩)
        rw [List.reverse_cons, List.append_assoc, List.singleton_append] at hpush
        by_cases hup : s = ".."
        · subst hup
          cases kept with
          | nil => simpa [resolveSegments] using hpush
          | cons last others =>
              by_cases hlast : last = ".."
              · simpa [resolveSegments, hlast] using hpush
              · rcases List.forall_mem_cons.1 hkept with ⟨hname, hothers⟩
                rw [resolveSegments_up_cons false others rest hlast, ih others hothers]
                -- a name and the double dot after it come to nothing
                rw [List.reverse_cons, List.append_assoc, resolveSegments_append,
                  resolveSegments_append, List.singleton_append,
                  resolveSegments_name true _ _ hname hlast,
                  resolveSegments_up_cons true _ _ hlast]
        · rw [resolveSegments_name false kept rest hplain hup]
          exact hpush

/-- What is resolved keeps no slash, and nothing that vanishes. -/
theorem mem_resolveSegments {rooted : Bool} {done segs : List String} {n : String}
    (h : n ∈ resolveSegments rooted done segs) : n ∈ done ∨ n ∈ segs ∧ ¬(n = "" ∨ n = ".") := by
  induction segs generalizing done with
  | nil => exact Or.inl (List.mem_reverse.1 h)
  | cons s rest ih =>
      -- every branch goes on with the rest, and with what it keeps of the names before
      have hlater : ∀ {kept}, n ∈ resolveSegments rooted kept rest →
          n ∈ kept ∨ n ∈ s :: rest ∧ ¬(n = "" ∨ n = ".") := by
        intro kept hn
        exact (ih hn).imp_right fun hmem => ⟨List.mem_cons_of_mem s hmem.1, hmem.2⟩
      by_cases hplain : s = "" ∨ s = "."
      · rw [resolveSegments_skip rooted done rest hplain] at h
        exact hlater h
      · have hpush : n ∈ resolveSegments rooted (s :: done) rest →
            n ∈ done ∨ n ∈ s :: rest ∧ ¬(n = "" ∨ n = ".") := by
          intro hn
          rcases hlater hn with hn | hn
          · rcases List.mem_cons.1 hn with rfl | hn
            · exact Or.inr ⟨List.mem_cons_self, hplain⟩
            · exact Or.inl hn
          · exact Or.inr hn
        by_cases hup : s = ".."
        · subst hup
          cases done with
          | nil =>
              cases rooted with
              | true => exact hlater (by simpa [resolveSegments] using h)
              | false => exact hpush (by simpa [resolveSegments] using h)
          | cons last others =>
              by_cases hlast : last = ".."
              · exact hpush (by simpa [resolveSegments, hlast] using h)
              · rw [resolveSegments_up_cons rooted others rest hlast] at h
                exact (hlater h).imp_left (List.mem_cons_of_mem last)
        · rw [resolveSegments_name rooted done rest hplain hup] at h
          exact hpush h

theorem parts_joinWith {names : List String} (h : ∀ n ∈ names, n ≠ "" ∧ '/' ∉ n.toList) :
    parts (Text.joinWith "/" names) = names := by
  cases names with
  | nil => exact parts_empty
  | cons n rest =>
      unfold parts
      rw [segments_joinWith (List.cons_ne_nil n rest) fun m hm => (h m hm).2]
      refine List.filter_eq_self.2 fun m hm => ?_
      simpa [String.isEmpty_iff] using (h m hm).1

theorem exists_eq_slash_append {path : String} (h : isAbsolute path = true) :
    ∃ rest, path = "" ++ "/" ++ rest := by
  rcases Text.exists_eq_append_of_startsWith h with ⟨rest, hrest⟩
  exact ⟨rest, by rw [hrest]; simp⟩

theorem leadingSlashes_eq_zero_iff (path : String) :
    leadingSlashes path = 0 ↔ isAbsolute path = false := by
  -- what does not start with one slash does not start with more
  have hlonger : ∀ {t : String}, "/".toList <+: t.toList → isAbsolute path = false →
      Text.startsWith path t = false := by
    intro t ht hpath
    rw [Bool.eq_false_iff, Ne, Text.startsWith_iff]
    intro hfront
    have habsolute : isAbsolute path = true := Text.startsWith_iff.2 (ht.trans hfront)
    simp [hpath] at habsolute
  constructor
  · intro h
    unfold leadingSlashes at h
    split at h
    · cases h
    · split at h
      · cases h
      · split at h
        · cases h
        · rename_i hnot
          exact Bool.eq_false_iff.2 hnot
  · intro h
    have h₁ := hlonger (t := "///") (by decide) h
    have h₂ := hlonger (t := "//") (by decide) h
    unfold leadingSlashes
    rw [h₁, h₂]
    exact if_neg (Bool.eq_false_iff.1 h)

/-- Slashes in front of a path make it absolute, and add no parts. -/
theorem parts_slashes_append (k : Nat) (body : String) :
    parts (String.ofList (List.replicate k '/') ++ body) = parts body := by
  induction k with
  | zero => simp
  | succ k ih =>
      have hsplit : String.ofList (List.replicate (k + 1) '/') ++ body =
          "" ++ "/" ++ (String.ofList (List.replicate k '/') ++ body) := by
        rw [← String.toList_inj]
        simp [List.replicate_succ]
      rw [hsplit, parts_append, parts_empty, List.nil_append, ih]

/-- The names that a normal form is made of. -/
theorem resolved_segments (rooted : Bool) (path : String) :
    ∀ n ∈ resolveSegments rooted [] (segments path), n ≠ "" ∧ n ≠ "." ∧ '/' ∉ n.toList := by
  intro n hn
  rcases mem_resolveSegments hn with hnone | ⟨hsegment, hkept⟩
  · exact absurd hnone List.not_mem_nil
  · exact ⟨fun h => hkept (Or.inl h), fun h => hkept (Or.inr h), not_mem_of_mem_segments hsegment⟩

/-- The normal form of an absolute path is absolute and has its names. -/
theorem normalize_of_isAbsolute {path : String} (h : isAbsolute path = true) :
    isAbsolute (normalize path) = true ∧ parts (normalize path) = names path := by
  have hslashes : leadingSlashes path ≠ 0 := by
    intro hzero
    simp [(leadingSlashes_eq_zero_iff path).1 hzero] at h
  rcases Nat.exists_eq_succ_of_ne_zero hslashes with ⟨k, hk⟩
  have hfront : String.ofList (List.replicate (k + 1) '/') =
      "/" ++ String.ofList (List.replicate k '/') := by
    rw [← String.toList_inj]
    simp [List.replicate_succ]
  -- the names stand behind the slashes, of which there is at least one
  have hform : normalize path = String.ofList (List.replicate (k + 1) '/') ++
      Text.joinWith "/" (names path) := by
    unfold normalize
    dsimp only
    rw [hk]
    exact if_neg (by simp [hfront, String.isEmpty_iff])
  rw [hform]
  constructor
  · rw [hfront, String.append_assoc]
    exact Text.startsWith_append _ _
  · rw [parts_slashes_append]
    exact parts_joinWith fun n hn => ⟨(isName_names path n hn).1, (isName_names path n hn).2.2.2⟩

/-- The normal form of a relative path is relative and is resolved as the path is. -/
theorem normalize_of_relative {path : String} (h : isAbsolute path = false) :
    isAbsolute (normalize path) = false ∧ ∀ done,
      resolveSegments true done (parts (normalize path)) =
        resolveSegments true done (parts path) := by
  have hzero : leadingSlashes path = 0 := (leadingSlashes_eq_zero_iff path).2 h
  have hresolved := resolved_segments false path
  have hagain : ∀ done, resolveSegments true done (resolveSegments false [] (segments path)) =
      resolveSegments true done (parts path) := by
    intro done
    rw [resolveSegments_resolveSegments done [] _ (by simp)]
    exact (resolveSegments_filter true done (segments path)).symm
  have hform : normalize path =
      if (Text.joinWith "/" (resolveSegments false [] (segments path))).isEmpty then "."
      else Text.joinWith "/" (resolveSegments false [] (segments path)) := by
    unfold normalize
    simp [hzero]
  generalize resolveSegments false [] (segments path) = kept at hresolved hagain hform
  rw [hform]
  split
  · -- nothing is left but the place itself
    rename_i hempty
    have hnone : kept = [] := by
      have hparts := parts_joinWith fun n hn => ⟨(hresolved n hn).1, (hresolved n hn).2.2⟩
      rw [String.isEmpty_iff.1 hempty, parts_empty] at hparts
      exact hparts.symm
    refine ⟨by decide, fun done => ?_⟩
    rw [← hagain done, hnone]
    exact resolveSegments_skip true done [] (Or.inr rfl)
  · rename_i hfull
    have hparts : parts (Text.joinWith "/" kept) = kept :=
      parts_joinWith fun n hn => ⟨(hresolved n hn).1, (hresolved n hn).2.2⟩
    refine ⟨?_, fun done => by rw [hparts, hagain done]⟩
    rw [Bool.eq_false_iff]
    intro habsolute
    rcases exists_eq_slash_append habsolute with ⟨rest, hrest⟩
    have hne : kept ≠ [] := by
      rintro rfl
      exact hfull (by decide)
    have hsegments := segments_joinWith hne fun n hn => (hresolved n hn).2.2
    rw [hrest, segments_append] at hsegments
    exact (hresolved "" (hsegments ▸ List.mem_append_left _ (by decide))).1 rfl

/-! ## Staying below -/

/-- Segments go up no further than they have come down, from some names below. -/
def staysBelow : Nat → List String → Bool
  | _, [] => true
  | n, s :: rest =>
    if s == "" || s == "." then staysBelow n rest
    else if s == ".." then
      match n with
      | 0 => false
      | n + 1 => staysBelow n rest
    else staysBelow (n + 1) rest

theorem staysBelow_of_not_mem {segs : List String} (h : ".." ∉ segs) (n : Nat) :
    staysBelow n segs = true := by
  induction segs generalizing n with
  | nil => rfl
  | cons s rest ih =>
      rcases not_or.1 fun hor => h (List.mem_cons.2 hor) with ⟨hup, hrest⟩
      have hne : ¬ s = ".." := fun hs => hup hs.symm
      unfold staysBelow
      split
      · exact ih hrest n
      · simpa [hne] using ih hrest (n + 1)

/-- Segments that stay below keep the names above them. -/
theorem prefix_of_staysBelow {root down segs : List String} (hdown : ∀ n ∈ down, n ≠ "..")
    (h : staysBelow down.length segs = true) :
    root <+: resolveSegments true (down ++ root.reverse) segs := by
  -- the induction carries the names below the root, the last one first
  induction segs generalizing down with
  | nil => simp [resolveSegments]
  | cons s rest ih =>
      unfold staysBelow at h
      by_cases hplain : s = "" ∨ s = "."
      · rw [if_pos (by simpa using hplain)] at h
        rw [resolveSegments_skip true _ rest hplain]
        exact ih hdown h
      · rw [if_neg (by simpa using hplain)] at h
        by_cases hup : s = ".."
        · subst hup
          cases down with
          | nil => simp at h
          | cons last others =>
              rcases List.forall_mem_cons.1 hdown with ⟨hlast, hothers⟩
              rw [List.cons_append, resolveSegments_up_cons true _ rest hlast]
              exact ih hothers (by simpa using h)
        · rw [if_neg (by simpa using hup)] at h
          rw [resolveSegments_name true _ rest hplain hup]
          have hlonger : ∀ name ∈ s :: down, name ≠ ".." := List.forall_mem_cons.2 ⟨hup, hdown⟩
          exact ih hlonger h

theorem isAbsolute_join {base path : String} (h : isAbsolute path = false) :
    isAbsolute (join base path) = isAbsolute base := by
  unfold join
  rw [h, if_neg Bool.false_ne_true]
  by_cases hempty : base = ""
  · subst hempty
    simpa [isAbsolute, Text.startsWith] using h
  · -- the path goes on behind the base, which begins it
    have hbegins : ∀ rest, isAbsolute (base ++ rest) = isAbsolute base := by
      intro rest
      have hchars : base.toList ≠ [] := by simpa using hempty
      unfold isAbsolute Text.startsWith
      rw [String.toList_append]
      cases hbase : base.toList with
      | nil => exact absurd hbase hchars
      | cons c cs => simp [List.isPrefixOf]
    split
    · exact hbegins path
    · rw [String.append_assoc]
      exact hbegins _

/-! ## Plain segments -/

theorem parts_of_not_mem {w : String} (h : '/' ∉ w.toList) :
    parts w = [w].filter fun s => !s.isEmpty := by
  unfold parts
  rw [segments_of_not_mem h]

theorem isAbsolute_of_not_mem {w : String} (h : '/' ∉ w.toList) : isAbsolute w = false := by
  rw [Bool.eq_false_iff]
  intro habsolute
  rcases exists_eq_slash_append habsolute with ⟨rest, rfl⟩
  exact h (by simp)

/-- One segment that does not go up. -/
def IsLevel (s : String) : Prop :=
  '/' ∉ s.toList ∧ s ≠ ".."

theorem IsName.isLevel {s : String} (h : IsName s) : IsLevel s :=
  ⟨h.2.2.2, h.2.2.1⟩

/-- A text with a long ending goes nowhere up. -/
theorem isLevel_append {s ending : String} (hs : '/' ∉ s.toList) (hending : '/' ∉ ending.toList)
    (hlong : 2 < ending.length) : IsLevel (s ++ ending) := by
  refine ⟨by simp [hs, hending], fun heq => ?_⟩
  have hlength := congrArg String.length heq
  rw [String.length_append] at hlength
  have htwo : "..".length = 2 := by decide
  omega

/-- Segments one below the other, of which only the first one may go up. -/
inductive Plain : List String → Prop
  | nil : Plain []
  | cons {w : String} {rest : List String} (hw : '/' ∉ w.toList)
      (hrest : ∀ s ∈ rest, IsLevel s) : Plain (w :: rest)

theorem Plain.not_mem {ways : List String} (h : Plain ways) : ∀ w ∈ ways, '/' ∉ w.toList := by
  cases h with
  | nil => simp
  | cons hw hrest => exact List.forall_mem_cons.2 ⟨hw, fun s hs => (hrest s hs).1⟩

theorem plain_of_isName {ways : List String} (h : ∀ w ∈ ways, IsName w) : Plain ways := by
  cases ways with
  | nil => exact .nil
  | cons w rest =>
      rcases List.forall_mem_cons.1 h with ⟨hw, hrest⟩
      exact .cons hw.isLevel.1 fun s hs => (hrest s hs).isLevel

theorem flatMap_parts_of_not_mem {ways : List String} (h : ∀ w ∈ ways, '/' ∉ w.toList) :
    ways.flatMap parts = ways.filter fun s => !s.isEmpty := by
  induction ways with
  | nil => rfl
  | cons w rest ih =>
      rcases List.forall_mem_cons.1 h with ⟨hw, hrest⟩
      rw [List.flatMap_cons, ih hrest, parts_of_not_mem hw, ← List.filter_append]
      rfl

/-! ## Routes -/

/-- Texts that are joined to a base one by one. -/
structure Route where
  base : String
  ways : List String
  deriving Repr

/-- The path that is put together. -/
def Route.path (r : Route) : String :=
  joinAll r.base r.ways

end Path

namespace Disk

open RoleAudit.Path

variable {d : Disk} {root : String}

/-- A path is written for names below those of another one, or for the same. -/
def LiesBelow (d : Disk) (root path : String) : Prop :=
  d.namesAt root <+: d.namesAt path

instance (d : Disk) (root path : String) : Decidable (d.LiesBelow root path) :=
  inferInstanceAs (Decidable (d.namesAt root <+: d.namesAt path))

theorem namesAt_normalize (path : String) : d.namesAt (normalize path) = d.namesAt path := by
  unfold namesAt start
  cases h : isAbsolute path with
  | true =>
      rcases normalize_of_isAbsolute h with ⟨habsolute, hparts⟩
      rw [habsolute, hparts]
      calc
        resolveSegments true [] (names path) = names path :=
          resolveSegments_of_isName true [] (isName_names path)
        _ = resolveSegments true [] (parts path) := names_eq_parts path
  | false =>
      rcases normalize_of_relative h with ⟨hrelative, hresolve⟩
      rw [hrelative]
      exact hresolve _

/-- A relative path goes on from the names of its base. -/
theorem namesAt_join {base path : String} (h : isAbsolute path = false) :
    d.namesAt (join base path) =
      resolveSegments true (d.namesAt base).reverse (parts path) := by
  have hstart : d.start (join base path) = d.start base := by
    unfold start
    rw [isAbsolute_join h]
  unfold namesAt
  rw [hstart, parts_join h, resolveSegments_append]

theorem namesAt_joinAll (base : String) {ways : List String}
    (h : ∀ w ∈ ways, isAbsolute w = false) :
    d.namesAt (joinAll base ways) =
      resolveSegments true (d.namesAt base).reverse (ways.flatMap parts) := by
  induction ways generalizing base with
  | nil => simp [joinAll, resolveSegments]
  | cons w rest ih =>
      rcases List.forall_mem_cons.1 h with ⟨hw, hrest⟩
      have hjoin : joinAll base (w :: rest) = joinAll (join base w) rest := rfl
      rw [hjoin, ih (join base w) hrest, namesAt_join hw, List.flatMap_cons,
        resolveSegments_append]

end Disk

namespace Path.Route

open RoleAudit.Path

variable {d : Disk} {root : String} {r : Route}

/--
Nothing on the way starts anew at the root of all, and the way goes up no further than the base lies
below a directory.
-/
def KeepsBelow (d : Disk) (root : String) (r : Route) : Prop :=
  (∀ w ∈ r.ways, isAbsolute w = false) ∧
    staysBelow ((d.namesAt r.base).length - (d.namesAt root).length) (r.ways.flatMap parts) = true

instance : Decidable (r.KeepsBelow d root) :=
  inferInstanceAs (Decidable ((∀ w ∈ r.ways, isAbsolute w = false) ∧ _ = true))

/-- A route that keeps below a directory ends below it, if it starts there. -/
theorem liesBelow (hd : d.IsPlaced) (hbase : d.LiesBelow root r.base)
    (h : r.KeepsBelow d root) : d.LiesBelow root r.path := by
  rcases hbase with ⟨down, hdown⟩
  have hnames : ∀ n ∈ down.reverse, n ≠ ".." := by
    intro n hn
    have hmem : n ∈ d.namesAt r.base := by
      rw [← hdown]
      exact List.mem_append_right _ (List.mem_reverse.1 hn)
    exact (Disk.isName_namesAt hd r.base n hmem).2.2.1
  -- there are as many steps to take back as names below the root
  have hlength : (d.namesAt r.base).length - (d.namesAt root).length = down.reverse.length := by
    rw [← hdown]
    simp
  have hstays := h.2
  rw [hlength] at hstays
  unfold Disk.LiesBelow path
  rw [Disk.namesAt_joinAll r.base h.1, ← hdown, List.reverse_append]
  exact prefix_of_staysBelow hnames hstays

/-- Below a directory of the root there is room for one step up. -/
theorem keepsBelow_of_plain (d : Disk) (root : String) {folder : String} (hfolder : IsName folder)
    {ways : List String} (h : Plain ways) : KeepsBelow d root ⟨root, folder :: ways⟩ := by
  have hall : ∀ w ∈ folder :: ways, '/' ∉ w.toList :=
    List.forall_mem_cons.2 ⟨hfolder.2.2.2, h.not_mem⟩
  refine ⟨fun w hw => isAbsolute_of_not_mem (hall w hw), ?_⟩
  have hfirst : (folder :: ways).filter (fun s => !s.isEmpty) =
      folder :: ways.filter fun s => !s.isEmpty :=
    List.filter_cons_of_pos (by simpa [String.isEmpty_iff] using hfolder.1)
  have hdown : ∀ n segs, staysBelow n (folder :: segs) = staysBelow (n + 1) segs := by
    intro n segs
    rw [staysBelow.eq_def]
    simp [hfolder.1, hfolder.2.1, hfolder.2.2.1]
  dsimp only
  rw [flatMap_parts_of_not_mem hall, hfirst, hdown]
  -- only the first way may go up, and only by one step
  cases h with
  | nil => rfl
  | @cons w rest _ hrest =>
      have hstays : ∀ n, staysBelow n (rest.filter fun s => !s.isEmpty) = true :=
        staysBelow_of_not_mem fun hmem => (hrest _ (List.mem_filter.1 hmem).1).2 rfl
      rw [List.filter_cons]
      split
      · unfold staysBelow
        split
        · exact hstays _
        · split
          · exact hstays _
          · exact hstays _
      · exact hstays _

end Path.Route
end RoleAudit
