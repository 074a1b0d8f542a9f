import RoleAudit.Proofs.Extraction.Steps

/-!
# Entries that cannot be read

An extraction fails for the place it writes to, for the names of its entries, or for their data. Only
the data can use what is not supported, and they are asked for late: all directories are made before,
the files in front are written, and the file of the entry is opened.

- `Extracting.Meets`: a step fails because of something that is not supported;
- `Extracting.meets_bind_iff`, `Extracting.meets_mapM_iff`: steps in a row meet what the first one
  meets that fails;
- `layOut`, `openEntry`: what an extraction does before it asks for data;
- `ComesTo`: an extraction gets as far as asking for the data of an entry;
- `meets_extractAll_iff`: what an extraction meets is a fault of an entry that it comes to.
-/

namespace RoleAudit

/-! ## Failing for something unsupported -/

namespace Extracting

variable {α β : Type}

/-- A step fails because of something that is not supported. -/
def Meets (x : Extracting α) (d : Disk) (e : ExtractionError) : Prop :=
  (x.run.run d).1 = .error e ∧ e.unsupported?.isSome

theorem run_bind_of_ok {x : Extracting α} {f : α → Extracting β} {d d' : Disk} {a : α}
    (h : x.run.run d = (.ok a, d')) : (x >>= f).run.run d = (f a).run.run d' := by
  rw [run_bind, h]

/-- Two steps succeed if the first one does, and the second one on what it leaves. -/
theorem run_bind_eq_ok_iff {x : Extracting α} {f : α → Extracting β} {d d'' : Disk} {b : β} :
    (x >>= f).run.run d = (.ok b, d'') ↔
      ∃ a d', x.run.run d = (.ok a, d') ∧ (f a).run.run d' = (.ok b, d'') := by
  constructor
  · intro h
    rw [run_bind] at h
    rcases hx : x.run.run d with ⟨e | a, d'⟩
    · rw [hx] at h
      cases h
    · rw [hx] at h
      exact ⟨a, d', rfl, h⟩
  · rintro ⟨a, d', hx, hf⟩
    exact (run_bind_of_ok hx).trans hf

/-- Two steps meet what the first one meets, or what the second one meets after it. -/
theorem meets_bind_iff {x : Extracting α} {f : α → Extracting β} {d : Disk}
    {e : ExtractionError} :
    (x >>= f).Meets d e ↔
      x.Meets d e ∨ ∃ a d', x.run.run d = (.ok a, d') ∧ (f a).Meets d' e := by
  constructor
  · rintro ⟨he, hfault⟩
    rw [run_bind] at he
    rcases hx : x.run.run d with ⟨e' | a, d'⟩
    · rw [hx] at he
      cases he
      exact Or.inl ⟨by rw [hx], hfault⟩
    · rw [hx] at he
      exact Or.inr ⟨a, d', rfl, he, hfault⟩
  · rintro (⟨he, hfault⟩ | ⟨a, d', hx, he, hfault⟩)
    · refine ⟨?_, hfault⟩
      rw [run_bind]
      rcases hx : x.run.run d with ⟨e' | a, d'⟩
      · rw [hx] at he
        cases he
        rfl
      · rw [hx] at he
        cases he
    · exact ⟨by rw [run_bind_of_ok hx]; exact he, hfault⟩

theorem not_meets_pure (a : α) (d : Disk) (e : ExtractionError) :
    ¬ (pure a : Extracting α).Meets d e := by
  rintro ⟨he, -⟩
  cases he

/-- Steps for a list meet what the first one meets that fails. -/
theorem meets_mapM_iff {items : List α} {f : α → Extracting β} {d : Disk}
    {e : ExtractionError} :
    (items.mapM f).Meets d e ↔
      ∃ before a after, items = before ++ a :: after ∧
        ∃ bs d', (before.mapM f).run.run d = (.ok bs, d') ∧ (f a).Meets d' e := by
  induction items generalizing d with
  | nil =>
      constructor
      · intro h
        exact absurd h (not_meets_pure [] d e)
      · rintro ⟨before, a, after, hsplit, -⟩
        simp at hsplit
  | cons a rest ih =>
      rw [List.mapM_cons, meets_bind_iff]
      constructor
      · rintro (hfirst | ⟨b, d', hb, hrest⟩)
        · exact ⟨[], a, rest, rfl, [], d, rfl, hfirst⟩
        · -- what is met later is met by the rest of the list
          rcases meets_bind_iff.1 hrest with hlater | ⟨bs, d'', -, hpure⟩
          · rcases ih.1 hlater with ⟨before, c, after, rfl, bs, d'', hbs, hc⟩
            refine ⟨a :: before, c, after, rfl, b :: bs, d'', ?_, hc⟩
            rw [List.mapM_cons, run_bind_of_ok hb, run_bind_of_ok hbs]
            rfl
          · exact absurd hpure (not_meets_pure _ _ _)
      · rintro ⟨before, c, after, hsplit, bs, d', hbs, hc⟩
        -- the item that fails is the first one, or the first one succeeds
        cases before with
        | nil =>
            rcases List.cons.inj hsplit with ⟨rfl, rfl⟩
            cases hbs
            exact Or.inl hc
        | cons a' before =>
            rcases List.cons.inj hsplit with ⟨rfl, rfl⟩
            rw [List.mapM_cons, run_bind_eq_ok_iff] at hbs
            rcases hbs with ⟨b, d₁, hb, hrest⟩
            rcases run_bind_eq_ok_iff.1 hrest with ⟨bs', d₂, hbs', hpure⟩
            cases hpure
            have hlater : (List.mapM f (before ++ c :: after)).Meets d₁ e :=
              ih.2 ⟨before, c, after, rfl, bs', d', hbs', hc⟩
            exact Or.inr ⟨b, d₁, hb, meets_bind_iff.2 (Or.inl hlater)⟩

/-- A step never fails because of something that is not supported. -/
def MeetsNothing (x : Extracting α) : Prop :=
  ∀ d e, ¬ x.Meets d e

namespace MeetsNothing

theorem pure (a : α) : (Pure.pure a : Extracting α).MeetsNothing :=
  not_meets_pure a

theorem get : (MonadState.get : Extracting Disk).MeetsNothing := by
  rintro d e ⟨he, -⟩
  cases he

theorem bind {x : Extracting α} {f : α → Extracting β} (hx : x.MeetsNothing)
    (hf : ∀ a, (f a).MeetsNothing) : (x >>= f).MeetsNothing := by
  intro d e h
  rcases meets_bind_iff.1 h with hfirst | ⟨a, d', -, hsecond⟩
  · exact hx d e hfirst
  · exact hf a d' e hsecond

theorem forM {items : List α} {f : α → Extracting PUnit} (hf : ∀ a, (f a).MeetsNothing) :
    (items.forM f).MeetsNothing := by
  induction items with
  | nil => exact MeetsNothing.pure _
  | cons a rest ih => exact (hf a).bind fun _ => ih

theorem changing (act : Disk → Disk × Except DiskError Unit) :
    (RoleAudit.changing act).MeetsNothing := by
  rintro d e ⟨he, hfault⟩
  rw [run_changing] at he
  cases hact : (act d).2 with
  | ok _ => simp [hact, Except.mapError] at he
  | error cause =>
      simp only [hact, Except.mapError, Except.error.injEq] at he
      subst he
      cases hfault

theorem onDisk (act : Disk → Except DiskError Disk) : (RoleAudit.onDisk act).MeetsNothing := by
  refine get.bind fun d => ?_
  cases act d with
  | ok d' =>
      rintro d e ⟨he, -⟩
      cases he
  | error cause =>
      rintro d e ⟨he, hfault⟩
      cases he
      cases hfault

theorem targetOf (root relative : String) :
    (liftM (RoleAudit.targetOf root relative) : Extracting String).MeetsNothing := by
  rintro d e ⟨he, hfault⟩
  unfold RoleAudit.targetOf at he
  dsimp only at he
  split at he
  · cases he
  · cases he
    cases hfault

theorem clearPlace (path : String) : (RoleAudit.clearPlace path).MeetsNothing := by
  rintro d e ⟨he, hfault⟩
  rw [run_clearPlace] at he
  -- it fails at a file, or at a directory that cannot be removed
  split at he
  · cases he
  · cases he
    cases hfault
  · split at he
    · cases he
    · cases he
      cases hfault

end MeetsNothing
end Extracting

/-! ## Up to the data of an entry -/

/-- Clear the place of an extraction, make it and the directories of entries, and tell its root. -/
def layOut (path : String) (wanted : List Wanted) : Extracting String := do
  clearPlace path
  changing fun d => d.makePath path
  let root := (← get).absolute path
  (wanted.filter fun w => w.entry.isDirectory).forM (makeEntryDirectory root)
  return root

/-- The entries that are files. -/
def filesOf (wanted : List Wanted) : List Wanted :=
  wanted.filter fun w => !w.entry.isDirectory

/-- Write the files of entries, one after the other. -/
def writeEach (root : String) (files : List Wanted) : Extracting (List (String × String)) :=
  files.mapM fun w => do return (w.relative, ← writeEntry root w)

/-- Make an empty file for an entry. -/
def openEntry (root : String) (w : Wanted) : Extracting String := do
  let target ← targetOf root w.relative
  changing fun d => d.makePath (Path.parent target)
  onDisk fun d => d.write target []
  return target

theorem extractAll_eq_layOut (path : String) (wanted : List Wanted) :
    extractAll path wanted =
      (do let root ← layOut path wanted; writeEach root (filesOf wanted)) := by
  simp only [layOut, bind_assoc, pure_bind]
  rfl

theorem writeEntry_eq_openEntry (root : String) (w : Wanted) :
    writeEntry root w = (do
      let target ← openEntry root w
      match w.entry.data () with
      | .error fault => throw (.brokenEntry fault)
      | .ok data => do
        onDisk fun d => d.write target data
        return target) := by
  simp only [openEntry, bind_assoc, pure_bind]
  rfl

theorem meetsNothing_layOut (path : String) (wanted : List Wanted) :
    (layOut path wanted).MeetsNothing := by
  refine (Extracting.MeetsNothing.clearPlace path).bind fun _ => ?_
  refine (Extracting.MeetsNothing.changing _).bind fun _ => ?_
  refine Extracting.MeetsNothing.get.bind fun d => ?_
  refine Extracting.MeetsNothing.bind ?_ fun _ => Extracting.MeetsNothing.pure _
  refine Extracting.MeetsNothing.forM fun w => ?_
  exact (Extracting.MeetsNothing.targetOf _ _).bind fun _ => Extracting.MeetsNothing.changing _

theorem meetsNothing_openEntry (root : String) (w : Wanted) :
    (openEntry root w).MeetsNothing := by
  refine (Extracting.MeetsNothing.targetOf _ _).bind fun target => ?_
  refine (Extracting.MeetsNothing.changing _).bind fun _ => ?_
  exact (Extracting.MeetsNothing.onDisk _).bind fun _ => Extracting.MeetsNothing.pure _

/-- Writing an entry meets a fault of its data, once the file is open. -/
theorem meets_writeEntry_iff {root : String} {w : Wanted} {d : Disk} {e : ExtractionError} :
    (writeEntry root w).Meets d e ↔
      (∃ target d', (openEntry root w).run.run d = (.ok target, d')) ∧
        ∃ fault, w.entry.data () = .error fault ∧ fault.isRefusal = false ∧
          e = .brokenEntry fault := by
  rw [writeEntry_eq_openEntry, Extracting.meets_bind_iff,
    or_iff_right (meetsNothing_openEntry root w d e)]
  cases hdata : w.entry.data () with
  | error fault =>
      -- data that cannot be read are met unless they are refused
      have hmeets : ∀ d', (throw (.brokenEntry fault) : Extracting String).Meets d' e ↔
          fault.isRefusal = false ∧ e = .brokenEntry fault := by
        intro d'
        constructor
        · rintro ⟨he, hfault⟩
          cases he
          refine ⟨?_, rfl⟩
          cases hrefused : fault.isRefusal with
          | false => rfl
          | true => simp [ExtractionError.unsupported?, hrefused] at hfault
        · rintro ⟨hrefused, rfl⟩
          exact ⟨rfl, by simp [ExtractionError.unsupported?, hrefused]⟩
      simp [hmeets]
  | ok data =>
      -- data that can be read are written, and this meets nothing
      have hwrite : ∀ target : String, (do
          onDisk fun d => d.write target data
          return target : Extracting String).MeetsNothing := fun target =>
        (Extracting.MeetsNothing.onDisk _).bind fun _ => Extracting.MeetsNothing.pure _
      constructor
      · rintro ⟨target, d', -, hmeets⟩
        exact absurd hmeets (hwrite target d' e)
      · rintro ⟨-, fault, hfault, -⟩
        cases hfault

/-! ## A whole extraction -/

/--
An extraction gets as far as asking for the data of an entry: it makes its directories, writes the
files in front of the entry, and opens a file for it.
-/
def ComesTo (d : Disk) (path : String) (wanted : List Wanted) (w : Wanted) : Prop :=
  ∃ before after, filesOf wanted = before ++ w :: after ∧
    ∃ target d', (do
      let root ← layOut path wanted
      let _ ← writeEach root before
      openEntry root w : Extracting String).run.run d = (.ok target, d')

/-- What an extraction meets is a fault of the first entry that has one and that it comes to. -/
theorem meets_extractAll_iff {d : Disk} {path : String} {wanted : List Wanted}
    {e : ExtractionError} :
    (extractAll path wanted).Meets d e ↔
      ∃ w fault, ComesTo d path wanted w ∧ w.entry.data () = .error fault ∧
        fault.isRefusal = false ∧ e = .brokenEntry fault := by
  have hwrite : ∀ (root : String) (w : Wanted) (d' : Disk),
      (do return (w.relative, ← writeEntry root w) : Extracting (String × String)).Meets d' e ↔
        (writeEntry root w).Meets d' e := by
    intro root w d'
    rw [Extracting.meets_bind_iff]
    refine or_iff_left ?_
    rintro ⟨target, d'', -, hpure⟩
    exact Extracting.not_meets_pure _ _ _ hpure
  -- only the writing of files can meet anything
  rw [extractAll_eq_layOut, Extracting.meets_bind_iff,
    or_iff_right (meetsNothing_layOut path wanted d e)]
  constructor
  · rintro ⟨root, d₁, hlaid, hmeets⟩
    rcases Extracting.meets_mapM_iff.1 hmeets with ⟨before, w, after, hfiles, bs, d₂, hbs, hw⟩
    rcases meets_writeEntry_iff.1 ((hwrite root w d₂).1 hw) with
      ⟨⟨target, d₃, hopen⟩, fault, hdata⟩
    refine ⟨w, fault, ⟨before, after, hfiles, target, d₃, ?_⟩, hdata⟩
    exact Extracting.run_bind_eq_ok_iff.2
      ⟨root, d₁, hlaid, Extracting.run_bind_eq_ok_iff.2 ⟨bs, d₂, hbs, hopen⟩⟩
  · rintro ⟨w, fault, ⟨before, after, hfiles, target, d₃, hrun⟩, hdata⟩
    rcases Extracting.run_bind_eq_ok_iff.1 hrun with ⟨root, d₁, hlaid, hrest⟩
    rcases Extracting.run_bind_eq_ok_iff.1 hrest with ⟨bs, d₂, hbs, hopen⟩
    have hw : (writeEntry root w).Meets d₂ e :=
      meets_writeEntry_iff.2 ⟨⟨target, d₃, hopen⟩, fault, hdata⟩
    refine ⟨root, d₁, hlaid, Extracting.meets_mapM_iff.2 ?_⟩
    exact ⟨before, w, after, hfiles, bs, d₂, hbs, (hwrite root w d₂).2 hw⟩

end RoleAudit
