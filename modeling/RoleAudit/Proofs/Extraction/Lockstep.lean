import Mathlib.Data.List.Forall2
import RoleAudit.Proofs.Extraction.Steps

/-!
# Extractions in lockstep

Two archives may hold the same project under other names. Their entries are then extracted side by
side, and a fault of one entry is a fault of its twin:

- `FaultKind`: what a fault is, without the names that its wording mentions;
- `EndsAlike`: two extractions give the same, or fail in the same way;
- `Lockstep`: two steps that do the same to every disk and end alike, with `Lockstep.bind` and
  `Lockstep.mapM`;
- `Twins`: entries that are wanted under one name and have the same content;
- `lockstep_extractAll`: archives of twins are extracted in lockstep.
-/

namespace RoleAudit

/-! ## Faults and data -/

namespace Archive

/-- What a fault is, without the names that its wording mentions. -/
inductive FaultKind where
  | broken
  | unsupported
  | encrypted
  | misplaced
  | misnamed
  | corrupt
  | corruptBlocks
  | corruptRanges
  deriving DecidableEq, Repr

/-- The kind of a fault. -/
def Fault.kind : Fault → FaultKind
  | .unknownVersion _ | .unknownMethod | .patchedData | .strongEncryption => .unsupported
  | .encrypted _ => .encrypted
  | .negativeOffset _ => .misplaced
  | .badName _ => .misnamed
  | .corruptData => .corrupt
  | .corruptBlocks => .corruptBlocks
  | .corruptRanges _ => .corruptRanges
  | _ => .broken

/-- The same data, or faults of one kind. -/
def SameData : Except Fault Octets → Except Fault Octets → Prop
  | .ok data, .ok data' => data' = data
  | .error f, .error f' => f'.kind = f.kind
  | _, _ => False

end Archive

/-! ## Ending alike -/

/--
Two extractions end alike: both give the same or fail for the same reason, or an entry cannot be read
in one and its twin cannot be read in the other, for faults of one kind.
-/
inductive EndsAlike (twins : Archive.Entry → Archive.Entry → Prop) {α : Type} :
    Except ExtractionError α → Except ExtractionError α → Prop
  | same (result : Except ExtractionError α) : EndsAlike twins result result
  | broken {e e' : Archive.Entry} {f f' : Archive.Fault} (h : twins e e')
      (hread : e.data () = .error f) (hread' : e'.data () = .error f') (hkind : f'.kind = f.kind) :
      EndsAlike twins (.error (.brokenEntry f)) (.error (.brokenEntry f'))

theorem EndsAlike.map {twins : Archive.Entry → Archive.Entry → Prop} {α β : Type}
    {result result' : Except ExtractionError α} (h : EndsAlike twins result result') (f : α → β) :
    EndsAlike twins (result.map f) (result'.map f) := by
  cases h with
  | same result => exact .same _
  | broken h hread hread' hkind => exact .broken h hread hread' hkind

/-! ## Steps side by side -/

/-- Two steps do the same to every disk, and end alike. -/
def Lockstep (twins : Archive.Entry → Archive.Entry → Prop) {α : Type} (x y : Extracting α) : Prop :=
  ∀ d, (y.run.run d).2 = (x.run.run d).2 ∧ EndsAlike twins (x.run.run d).1 (y.run.run d).1

namespace Lockstep

variable {twins : Archive.Entry → Archive.Entry → Prop} {α β γ : Type}

theorem refl (x : Extracting α) : Lockstep twins x x :=
  fun _ => ⟨rfl, .same _⟩

theorem bind {x y : Extracting α} {f g : α → Extracting β} (hxy : Lockstep twins x y)
    (hfg : ∀ a, Lockstep twins (f a) (g a)) : Lockstep twins (x >>= f) (y >>= g) := by
  intro d
  rcases hxy d with ⟨hdisk, hend⟩
  rw [Extracting.run_bind, Extracting.run_bind]
  -- of the first steps only what they leave matters from here on
  generalize x.run.run d = left at hdisk hend ⊢
  generalize y.run.run d = right at hdisk hend ⊢
  rcases left with ⟨result, d'⟩
  rcases right with ⟨result', d''⟩
  dsimp only at hdisk hend
  subst hdisk
  cases hend with
  | same result =>
      cases result with
      | error e => exact ⟨rfl, .same _⟩
      | ok a => exact hfg a d''
  | broken h hread hread' hkind => exact ⟨rfl, .broken h hread hread' hkind⟩

/-- Items that match are handled in lockstep if each pair of them is. -/
theorem mapM {related : α → β → Prop} {items : List α} {items' : List β}
    {f : α → Extracting γ} {g : β → Extracting γ} (h : List.Forall₂ related items items')
    (hfg : ∀ a b, related a b → Lockstep twins (f a) (g b)) :
    Lockstep twins (items.mapM f) (items'.mapM g) := by
  induction h with
  | nil => exact Lockstep.refl _
  | cons hab _ ih =>
      rw [List.mapM_cons, List.mapM_cons]
      exact (hfg _ _ hab).bind fun c => ih.bind fun cs => Lockstep.refl _

theorem forM {related : α → β → Prop} {items : List α} {items' : List β}
    {f : α → Extracting PUnit} {g : β → Extracting PUnit} (h : List.Forall₂ related items items')
    (hfg : ∀ a b, related a b → Lockstep twins (f a) (g b)) :
    Lockstep twins (items.forM f) (items'.forM g) := by
  induction h with
  | nil => exact Lockstep.refl _
  | cons hab _ ih => exact (hfg _ _ hab).bind fun _ => ih

end Lockstep

/-! ## Twins -/

/-- Wanted entries of two archives with one relative name, of one kind and with the same content. -/
structure Twins (twins : Archive.Entry → Archive.Entry → Prop) (w w' : Wanted) : Prop where
  relative : w'.relative = w.relative
  isDirectory : w'.entry.isDirectory = w.entry.isDirectory
  entries : twins w.entry w'.entry
  data : Archive.SameData (w.entry.data ()) (w'.entry.data ())

section Extraction

variable {twins : Archive.Entry → Archive.Entry → Prop}

theorem Twins.makeEntryDirectory_eq {w w' : Wanted} (h : Twins twins w w') (root : String) :
    makeEntryDirectory root w' = makeEntryDirectory root w := by
  unfold makeEntryDirectory
  rw [h.relative]

theorem Twins.lockstep_writeEntry {w w' : Wanted} (h : Twins twins w w') (root : String) :
    Lockstep twins (writeEntry root w) (writeEntry root w') := by
  have hdata := h.data
  unfold writeEntry
  rw [h.relative]
  -- both open the same file; only then do they look at what the entry holds
  apply (Lockstep.refl _).bind
  intro target
  apply (Lockstep.refl _).bind
  intro _
  apply (Lockstep.refl _).bind
  intro _
  cases hread : w.entry.data () with
  | error f =>
      cases hread' : w'.entry.data () with
      | error f' =>
          rw [hread, hread'] at hdata
          exact fun d => ⟨rfl, .broken h.entries hread hread' hdata⟩
      | ok data' =>
          rw [hread, hread'] at hdata
          exact hdata.elim
  | ok data =>
      cases hread' : w'.entry.data () with
      | error f' =>
          rw [hread, hread'] at hdata
          exact hdata.elim
      | ok data' =>
          rw [hread, hread'] at hdata
          have hsame : data' = data := hdata
          rw [hsame]
          exact Lockstep.refl _

/-- Among twins the directories are twins, and so are the files. -/
theorem forall₂_filter_isDirectory {wanted wanted' : List Wanted}
    (h : List.Forall₂ (Twins twins) wanted wanted') (keeps : Bool → Bool) :
    List.Forall₂ (Twins twins) (wanted.filter fun w => keeps w.entry.isDirectory)
      (wanted'.filter fun w => keeps w.entry.isDirectory) := by
  induction h with
  | nil => exact .nil
  | cons hab _ ih =>
      rw [List.filter_cons, List.filter_cons, hab.isDirectory]
      split
      · exact .cons hab ih
      · exact ih

/-- Archives of twins are extracted in lockstep. -/
theorem lockstep_extractAll (path : String) {wanted wanted' : List Wanted}
    (h : List.Forall₂ (Twins twins) wanted wanted') :
    Lockstep twins (extractAll path wanted) (extractAll path wanted') := by
  have hdirectories := forall₂_filter_isDirectory h id
  have hfiles := forall₂_filter_isDirectory h not
  unfold extractAll
  apply (Lockstep.refl _).bind
  intro _
  apply (Lockstep.refl _).bind
  intro _
  apply (Lockstep.refl _).bind
  intro d
  refine (Lockstep.forM hdirectories fun w w' hw => ?_).bind fun _ =>
    Lockstep.mapM hfiles fun w w' hw => ?_
  · rw [hw.makeEntryDirectory_eq]
    exact Lockstep.refl _
  · rw [hw.relative]
    exact (hw.lockstep_writeEntry _).bind fun _ => Lockstep.refl _

end Extraction

end RoleAudit
