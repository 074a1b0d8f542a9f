import Mathlib.Data.List.Basic
import RoleAudit.Command.Check
import RoleAudit.Proofs.First

/-!
# What a configuration can be

Settings come from a document, whose values are taken as they are, and from variables, whose values
are read by the kind of their field. What this gives, and how it fails:

- `FieldKind.Admits`: the values that a field is meant to have, with `Field.usual_admits` and
  `admits_of_variableValue?`: defaults and variables give no others;
- `unknownNames_eq_nil_iff`, `isAnswered_unknownError_iff`: when the names of a document are
  refused, and when the refusal itself breaks down;
- `variableLayer`, `fieldValue?_append_variables`: what variables give counts before the document;
- `Configuration.IsBounded`, `Configuration.check_eq_ok_iff`: what the bounds of a configuration let
  pass; `Configuration.IsOverlong`: where a value would have to be put into words that are too long;
- `FaultyDocument`, `exists_documentEntries_eq_error_iff`: the documents that cannot be read and are
  not refused in words;
- `Configuration.IsLoaded`, `Unloadable`: the configurations that are loaded, and the inputs that
  neither give one nor are refused in words;
- `load_settles`: these are all that can happen, and a configuration has a value of a wrong kind
  exactly where the document gives it.
-/

namespace RoleAudit

open RoleAudit.Text RoleAudit.CheckCommand

/-! ## Kinds of values -/

/-- The values that a field of a kind is meant to have. A whole number is a number, too. -/
def FieldKind.Admits : FieldKind → Setting → Prop
  | .flag, .bool _ => True
  | .whole, .int _ => True
  | .real, .int _ => True
  | .real, .float _ => True
  | .texts, .list items => ∀ i ∈ items, i.text?.isSome
  | .text, .text _ => True
  | _, _ => False

theorem Field.usual_admits (temporary : String) (f : Field) :
    f.kind.Admits (f.usual temporary) := by
  cases f with
  | excluded => simp [Field.kind, Field.usual, FieldKind.Admits, Setting.text?]
  | _ => trivial

/-- Variables are read by the kind of their field. -/
theorem admits_of_variableValue? {kind : FieldKind} {raw : String} {v : Setting}
    (h : variableValue? kind raw = some v) : kind.Admits v := by
  cases kind with
  | flag | text =>
      cases h
      trivial
  | whole =>
      unfold variableValue? at h
      obtain ⟨n, -, rfl⟩ := Option.map_eq_some_iff.1 h
      trivial
  | real =>
      unfold variableValue? at h
      obtain ⟨x, -, rfl⟩ := Option.map_eq_some_iff.1 h
      trivial
  | texts =>
      cases h
      intro i hi
      obtain ⟨s, -, rfl⟩ := List.mem_map.1 hi
      rfl

/-! ## Names -/

namespace Setting

/-- Keys that count as the same are the same text, or no texts. -/
theorem text?_eq_of_sameKey {a b : Setting} (h : sameKey a b = true) : a.text? = b.text? := by
  cases a with
  | text s =>
      cases b with
      | text t => exact congrArg some (eq_of_beq h)
      | _ => simp [sameKey, number?] at h
  | _ =>
      cases b with
      | text t => simp [sameKey, number?] at h
      | _ => rfl

/-- A key is put in as a text or not, and nothing else changes about the texts among the keys. -/
theorem mem_texts_putEntry (key value : Setting) (table : List (Setting × Setting))
    (t : Option String) :
    t ∈ (putEntry key value table).map (fun entry => entry.1.text?) ↔
      t = key.text? ∨ t ∈ table.map fun entry => entry.1.text? := by
  induction table with
  | nil => simp [putEntry]
  | cons first rest ih =>
      obtain ⟨k, v⟩ := first
      unfold putEntry
      split
      · rename_i hsame
        rw [List.map_cons, List.map_cons, List.mem_cons, ← text?_eq_of_sameKey hsame]
        exact ⟨Or.inr, fun h => h.elim Or.inl id⟩
      · rw [List.map_cons, List.map_cons, List.mem_cons, List.mem_cons, ih]
        exact or_left_comm

/-- The texts among the keys of a table are those among its entries. -/
theorem mem_texts_tableFrom (entries : List (Setting × Setting)) (t : Option String) :
    t ∈ (tableFrom entries).map (fun entry => entry.1.text?) ↔
      t ∈ entries.map fun entry => entry.1.text? := by
  have hfrom : ∀ table : List (Setting × Setting),
      t ∈ (entries.foldl (fun table entry => putEntry entry.1 entry.2 table) table).map
          (fun entry => entry.1.text?) ↔
        t ∈ table.map (fun entry => entry.1.text?) ∨
          t ∈ entries.map fun entry => entry.1.text? := by
    induction entries with
    | nil => simp
    | cons first rest ih =>
        intro table
        rw [List.foldl_cons, ih, mem_texts_putEntry, List.map_cons, List.mem_cons, or_assoc]
        exact or_left_comm
  exact (hfrom []).trans (by rw [List.map_nil, List.mem_nil_iff, false_or])

end Setting

theorem Field.mem_all (f : Field) : f ∈ Field.all := by
  cases f <;> decide

theorem Field.name_injective {f g : Field} (h : f.name = g.name) : f = g := by
  have hall : ∀ f ∈ Field.all, ∀ g ∈ Field.all, f.name = g.name → f = g := by decide
  exact hall f f.mem_all g g.mem_all h

/-- The name of some field. -/
def IsFieldName (t : Option String) : Prop :=
  ∃ f : Field, t = some f.name

theorem isFieldName_iff {t : Option String} :
    (t.bind Field.ofName?).isSome = true ↔ IsFieldName t := by
  cases t with
  | none => simp [IsFieldName]
  | some s =>
      rw [Option.bind_some, Field.ofName?, List.find?_isSome]
      constructor
      · rintro ⟨f, -, hf⟩
        exact ⟨f, congrArg some (eq_of_beq hf).symm⟩
      · rintro ⟨f, hf⟩
        exact ⟨f, f.mem_all, beq_iff_eq.2 (Option.some.inj hf).symm⟩

theorem mem_unknownNames {entries : Entries} {k : Setting} :
    k ∈ unknownNames entries ↔
      (∃ v, (k, v) ∈ Setting.tableFrom entries) ∧ ¬ IsFieldName k.text? := by
  rw [← isFieldName_iff, unknownNames, List.mem_filterMap]
  constructor
  · rintro ⟨⟨k', v⟩, hentry, hk⟩
    dsimp only at hk
    split at hk
    · cases hk
    · rename_i hunknown
      cases hk
      exact ⟨⟨v, hentry⟩, hunknown⟩
  · rintro ⟨⟨v, hentry⟩, hunknown⟩
    exact ⟨(k, v), hentry, if_neg hunknown⟩

/-- An unknown name stands for one among the entries: only its text counts. -/
theorem exists_mem_unknownNames {entries : Entries} {t : Option String} :
    (∃ k ∈ unknownNames entries, k.text? = t) ↔
      (∃ entry ∈ entries, entry.1.text? = t) ∧ ¬ IsFieldName t := by
  -- of keys that are the same a table keeps one, and all of them have its text
  have htexts := Setting.mem_texts_tableFrom entries t
  rw [List.mem_map, List.mem_map] at htexts
  rw [← htexts]
  constructor
  · rintro ⟨k, hk, rfl⟩
    obtain ⟨⟨v, hentry⟩, hunknown⟩ := mem_unknownNames.1 hk
    exact ⟨⟨(k, v), hentry, rfl⟩, hunknown⟩
  · rintro ⟨⟨⟨k, v⟩, hentry, rfl⟩, hunknown⟩
    exact ⟨k, mem_unknownNames.2 ⟨⟨v, hentry⟩, hunknown⟩, rfl⟩

/-- No name is refused exactly if all of them are names of fields. -/
theorem unknownNames_eq_nil_iff {entries : Entries} :
    unknownNames entries = [] ↔ ∀ entry ∈ entries, IsFieldName entry.1.text? := by
  rw [List.eq_nil_iff_forall_not_mem]
  constructor
  · intro hnone entry hentry
    refine Classical.byContradiction fun hunknown => ?_
    obtain ⟨k, hk, -⟩ := exists_mem_unknownNames.2 ⟨⟨entry, hentry, rfl⟩, hunknown⟩
    exact hnone k hk
  · intro hall k hk
    obtain ⟨⟨entry, hentry, htext⟩, hunknown⟩ := exists_mem_unknownNames.1 ⟨k, hk, rfl⟩
    exact hunknown (htext ▸ hall entry hentry)

/-- Unknown names are refused in words exactly if they are texts. -/
theorem isAnswered_unknownError_iff {unknown : List Setting} :
    isAnswered (unknownError unknown) = false ↔ ∃ k ∈ unknown, k.text? = none := by
  unfold unknownError
  dsimp only
  split
  · rename_i hothers
    rw [List.filter_eq_nil_iff] at hothers
    constructor
    · intro h
      cases h
    · rintro ⟨k, hk, hnone⟩
      exact absurd (by rw [hnone]; rfl) (hothers k hk)
  · rename_i first rest hothers
    have hfirst : first ∈ unknown.filter fun k => k.text?.isNone := by
      rw [hothers]
      exact List.mem_cons_self
    obtain ⟨hmem, hnone⟩ := List.mem_filter.1 hfirst
    refine iff_of_true ?_ ⟨first, hmem, Option.isNone_iff_eq_none.1 hnone⟩
    -- whatever else is named, putting the names in order or joining them breaks down
    split
    · rfl
    · split
      · rfl
      · split
        · rfl
        · split <;> rfl

/-! ## Layers -/

/-- The value that a variable gives a field, if it is set and of the kind of the field. -/
def Field.given? (f : Field) (environment : List (String × String)) : Option Setting :=
  (environment.lookup f.variableName).bind (variableValue? f.kind)

/-- The variable of a field is of the kind of the field, if it is set. -/
def Field.IsReadable (f : Field) (environment : List (String × String)) : Prop :=
  ∀ raw, environment.lookup f.variableName = some raw → (variableValue? f.kind raw).isSome = true

/-- The entries that variables give. -/
def variableLayer (environment : List (String × String)) (fields : List Field) : Entries :=
  fields.filterMap fun f => (f.given? environment).map fun v => (.text f.name, v)

/-- The value that counts for each field: that of its variable, else that of the document. -/
def Configuration.settled (temporary : String) (entries : Entries)
    (environment : List (String × String)) : Configuration :=
  ⟨fun f => ((f.given? environment).or (fieldValue? entries f)).getD (f.usual temporary)⟩

section Layers

variable {environment : List (String × String)} {f : Field}

theorem variableEntry_of_isReadable (h : f.IsReadable environment) :
    variableEntry environment f =
      .ok ((f.given? environment).map fun v => (.text f.name, v)) := by
  unfold variableEntry Field.given?
  cases hraw : environment.lookup f.variableName with
  | none => rfl
  | some raw =>
      obtain ⟨v, hv⟩ := Option.isSome_iff_exists.1 (h raw hraw)
      simp [hv]

theorem variableEntry_of_not_isReadable (h : ¬ f.IsReadable environment) :
    ∃ raw, variableEntry environment f = .error (.badVariable f raw) := by
  obtain ⟨raw, hnot⟩ := Classical.not_forall.1 h
  obtain ⟨hraw, hnone⟩ := Classical.not_imp.1 hnot
  refine ⟨raw, ?_⟩
  unfold variableEntry
  simp [hraw, Option.not_isSome_iff_eq_none.1 hnone]

/-- Variables give their layer if all of them can be read. -/
theorem mapM_variableEntry_of_isReadable {fields : List Field}
    (h : ∀ f ∈ fields, f.IsReadable environment) :
    fields.mapM (variableEntry environment) =
      .ok (fields.map fun f => (f.given? environment).map fun v => (.text f.name, v)) := by
  induction fields with
  | nil => rfl
  | cons f rest ih =>
      obtain ⟨hf, hrest⟩ := List.forall_mem_cons.1 h
      rw [List.mapM_cons, variableEntry_of_isReadable hf, ih hrest]
      rfl

/-- A variable that cannot be read is refused in words. -/
theorem mapM_variableEntry_of_not_isReadable {fields : List Field}
    (h : ¬ ∀ f ∈ fields, f.IsReadable environment) :
    ∃ f raw, fields.mapM (variableEntry environment) = .error (.badVariable f raw) := by
  induction fields with
  | nil => exact absurd (fun _ hf => absurd hf List.not_mem_nil) h
  | cons f rest ih =>
      rw [List.mapM_cons]
      by_cases hf : f.IsReadable environment
      · have hrest : ¬ ∀ f ∈ rest, f.IsReadable environment :=
          fun hrest => h (List.forall_mem_cons.2 ⟨hf, hrest⟩)
        obtain ⟨g, raw, herror⟩ := ih hrest
        exact ⟨g, raw, by rw [variableEntry_of_isReadable hf, herror]; rfl⟩
      · obtain ⟨raw, herror⟩ := variableEntry_of_not_isReadable hf
        exact ⟨f, raw, by rw [herror]; rfl⟩

theorem variableEntries_of_isReadable (h : ∀ f : Field, f.IsReadable environment) :
    variableEntries environment = .ok (variableLayer environment Field.all) := by
  unfold variableEntries variableLayer
  rw [mapM_variableEntry_of_isReadable fun f _ => h f]
  exact congrArg Except.ok (List.filterMap_map.trans rfl)

theorem variableEntries_of_not_isReadable (h : ¬ ∀ f : Field, f.IsReadable environment) :
    ∃ f raw, variableEntries environment = .error (.badVariable f raw) := by
  have hall : ¬ ∀ f ∈ Field.all, f.IsReadable environment :=
    fun hall => h fun f => hall f f.mem_all
  obtain ⟨f, raw, herror⟩ := mapM_variableEntry_of_not_isReadable hall
  exact ⟨f, raw, by unfold variableEntries; rw [herror]; rfl⟩

theorem fieldValue?_append (entries entries' : Entries) (f : Field) :
    fieldValue? (entries ++ entries') f = (fieldValue? entries' f).or (fieldValue? entries f) := by
  unfold fieldValue?
  rw [List.reverse_append, List.find?_append, Option.map_or]

theorem fieldValue?_variableLayer_singleton (f g : Field) :
    fieldValue? (variableLayer environment [g]) f =
      if f = g then f.given? environment else none := by
  by_cases hsame : f = g
  · subst hsame
    cases hv : f.given? environment <;> simp [variableLayer, fieldValue?, hv, Setting.text?]
  · have hname : g.name ≠ f.name := fun h => hsame (Field.name_injective h).symm
    cases hv : g.given? environment <;>
      simp [variableLayer, fieldValue?, hv, hsame, hname, Setting.text?]

theorem fieldValue?_variableLayer (fields : List Field) (f : Field) :
    fieldValue? (variableLayer environment fields) f =
      if f ∈ fields then f.given? environment else none := by
  induction fields with
  | nil => rfl
  | cons g rest ih =>
      have hsplit : variableLayer environment (g :: rest) =
          variableLayer environment [g] ++ variableLayer environment rest := by
        unfold variableLayer
        rw [← List.filterMap_append, List.singleton_append]
      rw [hsplit, fieldValue?_append, ih, fieldValue?_variableLayer_singleton]
      by_cases hmem : f ∈ rest
      · -- the variable of `f` counts already, and it gives the same wherever it is met
        rw [if_pos hmem, if_pos (List.mem_cons_of_mem g hmem)]
        split
        · exact Option.or_self
        · exact Option.or_none
      · rw [if_neg hmem, Option.none_or]
        by_cases hsame : f = g <;> simp [hsame, hmem]

/-- What the variables give counts before what is given below them. -/
theorem fieldValue?_append_variables (entries : Entries) (f : Field) :
    fieldValue? (entries ++ variableLayer environment Field.all) f =
      (f.given? environment).or (fieldValue? entries f) := by
  rw [fieldValue?_append, fieldValue?_variableLayer, if_pos f.mem_all]

theorem isFieldName_variableLayer {fields : List Field} :
    ∀ entry ∈ variableLayer environment fields, IsFieldName entry.1.text? := by
  intro entry hentry
  obtain ⟨f, -, hv⟩ := List.mem_filterMap.1 hentry
  obtain ⟨v, -, rfl⟩ := Option.map_eq_some_iff.1 hv
  exact ⟨f, rfl⟩

end Layers

/-! ## Bounds -/

/-- A time limit as it is accepted: a number that is not at most zero. A flag counts as a number. -/
inductive Setting.IsTimeLimit : Setting → Prop
  | whole {n : Int} (h : 0 < n) : IsTimeLimit (.int n)
  | real {x : Float} (h : ¬ x ≤ 0) : IsTimeLimit (.float x)
  | flag {b : Bool} (h : ¬ (if b then 1.0 else 0.0) ≤ (0 : Float)) : IsTimeLimit (.bool b)

/-- The fields with a list of choices, in the order in which they are checked. -/
def Field.restricted : List Field :=
  [resourceStrategy, completeness, oracle]

theorem Field.mem_restricted_iff {f : Field} : f ∈ Field.restricted ↔ f.choices ≠ [] := by
  cases f <;> decide

namespace Configuration

/-- A field has one of its choices. -/
def HasChoice (c : Configuration) (f : Field) : Prop :=
  ∃ s ∈ f.choices, c.value f = .text s

/-- The bounds of a configuration. -/
structure IsBounded (c : Configuration) : Prop where
  choices : ∀ f ∈ Field.restricted, c.HasChoice f
  timeout : (c.value .timeout).IsTimeLimit

/--
A value has to be put into words that are too long: that of the first field that has none of its
choices, which is refused, or any value of a configuration within its bounds, which is reported.
-/
inductive IsOverlong (c : Configuration) : Prop
  | refused {f : Field} (hf : FirstOf (fun f => ¬ c.HasChoice f) f Field.restricted)
      (hlong : (c.value f).isShowable = false)
  | reported {f : Field} (hc : c.IsBounded) (hlong : (c.value f).isShowable = false)

variable {c : Configuration}

theorem checkChoice_of_hasChoice {f : Field} (h : c.HasChoice f) :
    checkChoice f (c.value f) = .ok () := by
  obtain ⟨s, hs, hvalue⟩ := h
  unfold checkChoice
  rw [hvalue, if_pos]
  simp [Setting.text?, hs]

/-- What is said about a field that has none of its choices. -/
def refusal (f : Field) (value : Setting) : ConfigError :=
  if value.isShowable then .notAllowed f value else .notShowable

theorem isAnswered_refusal {f : Field} {value : Setting} :
    isAnswered (refusal f value) = value.isShowable := by
  unfold refusal
  cases value.isShowable <;> rfl

theorem checkChoice_of_not_hasChoice {f : Field} (hf : f ∈ Field.restricted)
    (h : ¬ c.HasChoice f) :
    checkChoice f (c.value f) = .error (refusal f (c.value f)) := by
  unfold checkChoice refusal
  rw [if_neg, ← apply_ite Except.error]
  -- a choice is a text, so that no other value has passed the test
  intro hallowed
  rw [Bool.or_eq_true, List.isEmpty_iff] at hallowed
  rcases hallowed with hempty | hany
  · exact Field.mem_restricted_iff.1 hf hempty
  · refine h ?_
    cases hvalue : c.value f with
    | text s =>
        rw [hvalue] at hany
        exact ⟨s, by simpa [Setting.text?] using hany, hvalue⟩
    | _ =>
        rw [hvalue] at hany
        cases hany

/-- The choices are checked one after the other; the first missing one is refused. -/
theorem forM_checkChoice_eq_error_iff {fields : List Field} (hfields : fields ⊆ Field.restricted)
    {e : ConfigError} :
    (forM fields fun f => checkChoice f (c.value f)) = .error e ↔
      ∃ f, FirstOf (fun f => ¬ c.HasChoice f) f fields ∧
        e = refusal f (c.value f) := by
  induction fields with
  | nil =>
      refine ⟨nofun, ?_⟩
      rintro ⟨_, hf, -⟩
      cases hf
  | cons f rest ih =>
      obtain ⟨hf, hrest⟩ := List.cons_subset.1 hfields
      rw [List.forM_cons]
      by_cases hchoice : c.HasChoice f
      · -- a field with a choice is passed
        rw [checkChoice_of_hasChoice hchoice]
        refine (ih hrest).trans ⟨?_, ?_⟩
        · rintro ⟨g, hg, he⟩
          exact ⟨g, .later (not_not_intro hchoice) hg, he⟩
        · rintro ⟨g, hg, he⟩
          cases hg with
          | here hnot => exact absurd hchoice hnot
          | later _ hg => exact ⟨g, hg, he⟩
      · -- the first one without is refused, whatever follows
        rw [checkChoice_of_not_hasChoice hf hchoice]
        constructor
        · intro h
          cases h
          exact ⟨f, .here hchoice, rfl⟩
        · rintro ⟨g, hg, rfl⟩
          cases hg with
          | here _ => rfl
          | later hnot _ => exact absurd hchoice hnot

theorem forM_checkChoice_eq_ok_iff {fields : List Field} (hfields : fields ⊆ Field.restricted) :
    (forM fields fun f => checkChoice f (c.value f)) = .ok () ↔ ∀ f ∈ fields, c.HasChoice f := by
  induction fields with
  | nil => exact ⟨fun _ _ hf => absurd hf List.not_mem_nil, fun _ => rfl⟩
  | cons f rest ih =>
      obtain ⟨hf, hrest⟩ := List.cons_subset.1 hfields
      rw [List.forM_cons, List.forall_mem_cons]
      by_cases hchoice : c.HasChoice f
      · rw [checkChoice_of_hasChoice hchoice]
        exact (ih hrest).trans (and_iff_right hchoice).symm
      · rw [checkChoice_of_not_hasChoice hf hchoice]
        exact ⟨nofun, fun h => absurd h.1 hchoice⟩

/-- A time limit is accepted or refused in words. -/
theorem checkTimeout_cases (v : Setting) :
    (checkTimeout v = .ok () ∧ v.IsTimeLimit) ∨
      ∃ e, checkTimeout v = .error e ∧ isAnswered e = true ∧ ¬ v.IsTimeLimit := by
  cases v with
  | int n =>
      by_cases hn : n ≤ 0
      · refine Or.inr ⟨.notPositive, if_pos hn, rfl, fun hlimit => ?_⟩
        cases hlimit with
        | whole h => exact absurd hn (Int.not_le.2 h)
      · exact Or.inl ⟨if_neg hn, .whole (Int.not_le.1 hn)⟩
  | float x =>
      by_cases hx : x ≤ 0
      · refine Or.inr ⟨.notPositive, if_pos hx, rfl, fun hlimit => ?_⟩
        cases hlimit with
        | real h => exact h hx
      · exact Or.inl ⟨if_neg hx, .real hx⟩
  -- a flag counts as the number that it is
  | bool b =>
      by_cases hb : (if b then 1.0 else 0.0) ≤ (0 : Float)
      · refine Or.inr ⟨.notPositive, if_pos hb, rfl, fun hlimit => ?_⟩
        cases hlimit with
        | flag h => exact h hb
      · exact Or.inl ⟨if_neg hb, .flag hb⟩
  | _ => exact Or.inr ⟨.notNumber _, rfl, rfl, nofun⟩

theorem check_eq (c : Configuration) :
    c.check = (do
      forM Field.restricted fun f => checkChoice f (c.value f)
      checkTimeout (c.value .timeout)) := by
  unfold check Field.restricted
  simp

/-- What the bounds let pass is within them. -/
theorem check_eq_ok_iff : c.check = .ok () ↔ c.IsBounded := by
  have hchoices : (forM Field.restricted fun f => checkChoice f (c.value f)) = .ok () ↔
      ∀ f ∈ Field.restricted, c.HasChoice f := forM_checkChoice_eq_ok_iff (List.Subset.refl _)
  rw [check_eq]
  cases hall : forM Field.restricted fun f => checkChoice f (c.value f) with
  | error e =>
      rw [hall] at hchoices
      exact ⟨nofun, fun h => absurd (hchoices.2 h.choices) nofun⟩
  | ok _ =>
      rw [hall] at hchoices
      change checkTimeout (c.value .timeout) = .ok () ↔ c.IsBounded
      rcases checkTimeout_cases (c.value .timeout) with ⟨hok, hlimit⟩ | ⟨e, herror, -, hlimit⟩
      · exact iff_of_true hok ⟨hchoices.1 rfl, hlimit⟩
      · rw [herror]
        exact iff_of_false nofun fun h => hlimit h.timeout

/-- A check fails without words exactly if it refuses a value that has none. -/
theorem exists_check_eq_error_iff :
    (∃ e, c.check = .error e ∧ isAnswered e = false) ↔
      ∃ f, FirstOf (fun f => ¬ c.HasChoice f) f Field.restricted ∧
        (c.value f).isShowable = false := by
  have hchoices : ∀ e, (forM Field.restricted fun f => checkChoice f (c.value f)) = .error e ↔
      ∃ f, FirstOf (fun f => ¬ c.HasChoice f) f Field.restricted ∧ e = refusal f (c.value f) :=
    fun e => forM_checkChoice_eq_error_iff (List.Subset.refl _)
  rw [check_eq]
  cases hall : forM Field.restricted fun f => checkChoice f (c.value f) with
  | error e =>
      simp only [hall, Except.error.injEq] at hchoices
      -- a choice is refused, with words only if its value can be shown
      change (∃ e', Except.error e = Except.error e' ∧ isAnswered e' = false) ↔ _
      constructor
      · rintro ⟨e', he, hwords⟩
        cases he
        obtain ⟨f, hf, rfl⟩ := (hchoices e).1 rfl
        exact ⟨f, hf, isAnswered_refusal.symm.trans hwords⟩
      · rintro ⟨f, hf, hlong⟩
        exact ⟨e, rfl, by rw [(hchoices _).2 ⟨f, hf, rfl⟩, isAnswered_refusal, hlong]⟩
  | ok _ =>
      simp only [hall, reduceCtorEq, false_iff] at hchoices
      -- all choices are made, and a time limit is always refused in words
      change (∃ e, checkTimeout (c.value .timeout) = .error e ∧ isAnswered e = false) ↔ _
      refine iff_of_false ?_ ?_
      · rintro ⟨e, he, hwords⟩
        rcases checkTimeout_cases (c.value .timeout) with ⟨hok, -⟩ | ⟨e', herror, hwords', -⟩
        · rw [hok] at he
          cases he
        · rw [herror] at he
          cases he
          rw [hwords'] at hwords
          cases hwords
      · rintro ⟨f, hf, -⟩
        exact hchoices _ ⟨f, hf, rfl⟩

theorem isShowable_iff : c.isShowable = true ↔ ∀ f, (c.value f).isShowable = true := by
  unfold isShowable
  rw [List.all_eq_true]
  exact ⟨fun h f => h f f.mem_all, fun h f _ => h f⟩

end Configuration

/-! ## Documents -/

/-- The octets of a document are no text, or a value in it is none of its kind. -/
inductive FaultyDocument (read : SettingReader) (content : Octets) : Prop
  | octets (h : decodeUtf8? content = none)
  | value {cs : List Char} {fault : Yaml.Fault} (hcs : decodeUtf8? content = some cs)
      (h : read (String.ofList (uniformLines cs)) = .error fault)
      (hfault : fault ≠ .malformed)

theorem exists_utf8Problem {content : Octets} (h : decodeUtf8? content = none) :
    ∃ problem, utf8Problem? content = some problem := by
  unfold decodeUtf8? at h
  dsimp only at h
  split at h
  · rename_i hfault
    exact Option.isSome_iff_exists.1 (by simpa [utf8Problem?] using hfault)
  · cases h

section Document

variable {read : SettingReader} {d : Disk} {path : String} {content : Octets}
  (hread : d.read path = .ok content)

include hread

theorem documentEntries_of_undecoded (h : decodeUtf8? content = none) :
    ∃ problem, documentEntries read d path = .error (.notUtf8 problem) := by
  obtain ⟨problem, hproblem⟩ := exists_utf8Problem h
  refine ⟨problem, ?_⟩
  simp only [documentEntries, hread, Except.mapError, bind, Except.bind, h, hproblem]
  rfl

variable {cs : List Char} (hcs : decodeUtf8? content = some cs)

include hcs

theorem documentEntries_of_fault {fault : Yaml.Fault}
    (h : read (String.ofList (uniformLines cs)) = .error fault) :
    documentEntries read d path =
      .error (if fault = .malformed then .malformed path else .badValue fault) := by
  simp only [documentEntries, hread, Except.mapError, hcs, bind, Except.bind, pure, Except.pure, h]
  cases fault <;> rfl

/-- What is no table is refused in words. -/
theorem documentEntries_of_value {v : Setting}
    (h : read (String.ofList (uniformLines cs)) = .ok v) :
    (∃ entries, documentEntries read d path = .ok entries) ∨
      documentEntries read d path = .error (.notTable path) := by
  simp only [documentEntries, hread, Except.mapError, hcs, bind, Except.bind, pure, Except.pure, h]
  by_cases hblank : v.isBlankValue = true
  · exact Or.inl ⟨[], if_pos hblank⟩
  · rw [if_neg hblank]
    cases v with
    | table entries => exact Or.inl ⟨entries, rfl⟩
    | _ => exact Or.inr rfl

end Document

/-- A document is refused without words exactly if it is faulty. -/
theorem exists_documentEntries_eq_error_iff {read : SettingReader} {d : Disk} {path : String} :
    (∃ e, documentEntries read d path = .error e ∧ isAnswered e = false) ↔
      ∃ content, d.read path = .ok content ∧ FaultyDocument read content := by
  constructor
  · -- what fails without words is neither the reading nor the form of the document
    rintro ⟨e, he, hwords⟩
    cases hread : d.read path with
    | error cause =>
        simp only [documentEntries, hread, Except.mapError] at he
        cases he
        cases hwords
    | ok content =>
        refine ⟨content, rfl, ?_⟩
        cases hcs : decodeUtf8? content with
        | none => exact .octets hcs
        | some cs =>
            cases hvalue : read (String.ofList (uniformLines cs)) with
            | error fault =>
                refine .value hcs hvalue fun hmalformed => ?_
                rw [documentEntries_of_fault hread hcs hvalue, if_pos hmalformed] at he
                cases he
                cases hwords
            | ok v =>
                rcases documentEntries_of_value hread hcs hvalue with ⟨entries, hok⟩ | herror
                · rw [hok] at he
                  cases he
                · rw [herror] at he
                  cases he
                  cases hwords
  · rintro ⟨content, hread, hfaulty⟩
    cases hfaulty with
    | octets h =>
        obtain ⟨problem, he⟩ := documentEntries_of_undecoded hread h
        exact ⟨_, he, rfl⟩
    | value hcs h hfault =>
        have he := documentEntries_of_fault hread hcs h
        rw [if_neg hfault] at he
        exact ⟨_, he, rfl⟩

/-! ## Loading -/

/-- A configuration that a document and variables give, within its bounds. -/
structure Configuration.IsLoaded (c : Configuration) (temporary : String) (entries : Entries)
    (environment : List (String × String)) : Prop where
  known : ∀ entry ∈ entries, IsFieldName entry.1.text?
  readable : ∀ f : Field, f.IsReadable environment
  settled : c = .settled temporary entries environment
  bounded : c.IsBounded
  showable : ∀ f, (c.value f).isShowable = true

/-- What neither gives a configuration nor is refused in words. -/
inductive Unloadable (read : SettingReader) (d : Disk) (temporary : String) (path : Option String)
    (environment : List (String × String)) : Prop
  /-- The document cannot be read as one. -/
  | document {p : String} {content : Octets} (hpath : path = some p) (hp : p.isEmpty = false)
      (hread : d.read p = .ok content) (h : FaultyDocument read content)
  /-- Something other than a text is named. -/
  | name {entries : Entries} {entry : Setting × Setting}
      (hentries : pathEntries read d path = .ok entries)
      (hreadable : ∀ f : Field, f.IsReadable environment) (hentry : entry ∈ entries)
      (h : entry.1.text? = none)
  /-- A whole number is too long for words. -/
  | number {entries : Entries} (hentries : pathEntries read d path = .ok entries)
      (hknown : ∀ entry ∈ entries, IsFieldName entry.1.text?)
      (hreadable : ∀ f : Field, f.IsReadable environment)
      (h : (Configuration.settled temporary entries environment).IsOverlong)

section Load

variable {read : SettingReader} {d : Disk} {temporary : String} {path : Option String}
  {environment : List (String × String)} {entries : Entries} {c : Configuration}

theorem value_load : (Configuration.load d temporary path environment read).value = (do
    let entries ← pathEntries read d path
    let given ← variableEntries environment
    let c ← Configuration.ofEntries (Field.usual temporary) (entries ++ given)
    if c.isShowable then return c else throw .notShowable) := by
  unfold Configuration.load
  dsimp only
  split <;> rfl

theorem exists_pathEntries_eq_error_iff :
    (∃ e, pathEntries read d path = .error e ∧ isAnswered e = false) ↔
      ∃ p content, path = some p ∧ p.isEmpty = false ∧ d.read p = .ok content ∧
        FaultyDocument read content := by
  unfold pathEntries
  cases path with
  | none =>
      refine iff_of_false ?_ ?_
      · rintro ⟨e, he, -⟩
        cases he
      · rintro ⟨p, content, hpath, -⟩
        cases hpath
  | some p =>
      dsimp only
      cases hp : p.isEmpty with
      | true =>
          refine iff_of_false ?_ ?_
          · rintro ⟨e, he, -⟩
            cases he
          · rintro ⟨p', content, hpath, hp', -⟩
            cases hpath
            rw [hp] at hp'
            cases hp'
      | false =>
          refine exists_documentEntries_eq_error_iff.trans ?_
          constructor
          · rintro ⟨content, hread, h⟩
            exact ⟨p, content, rfl, hp, hread, h⟩
          · rintro ⟨p', content, hpath, -, hread, h⟩
            cases hpath
            exact ⟨content, hread, h⟩

/-- Names are checked before anything else. -/
theorem ofEntries_of_unknown {entries : Entries} {usual : Field → Setting}
    (h : ¬ ∀ entry ∈ entries, IsFieldName entry.1.text?) :
    Configuration.ofEntries usual entries = .error (unknownError (unknownNames entries)) := by
  unfold Configuration.ofEntries
  split
  · rename_i hnone
    exact absurd (unknownNames_eq_nil_iff.1 hnone) h
  · rfl

theorem forall_append_variableLayer :
    (∀ entry ∈ entries ++ variableLayer environment Field.all, IsFieldName entry.1.text?) ↔
      ∀ entry ∈ entries, IsFieldName entry.1.text? := by
  rw [List.forall_mem_append]
  exact and_iff_left isFieldName_variableLayer

theorem ofEntries_of_known (h : ∀ entry ∈ entries, IsFieldName entry.1.text?) :
    Configuration.ofEntries (Field.usual temporary)
        (entries ++ variableLayer environment Field.all) =
      (Configuration.settled temporary entries environment).check.map fun _ =>
        Configuration.settled temporary entries environment := by
  have hvalue : (fun f => (fieldValue? (entries ++ variableLayer environment Field.all) f).getD
      (f.usual temporary)) = (Configuration.settled temporary entries environment).value := by
    funext f
    rw [fieldValue?_append_variables]
    rfl
  unfold Configuration.ofEntries
  rw [unknownNames_eq_nil_iff.2 (forall_append_variableLayer.2 h)]
  dsimp only
  rw [hvalue]

/-! The stages of loading, each with what comes of it if those before it go well. -/

theorem load_of_error {e : ConfigError} (h : pathEntries read d path = .error e) :
    (Configuration.load d temporary path environment read).value = .error e := by
  rw [value_load, h]
  rfl

theorem load_of_not_isReadable (temporary : String)
    (hentries : pathEntries read d path = .ok entries)
    (h : ¬ ∀ f : Field, f.IsReadable environment) :
    ∃ f raw, (Configuration.load d temporary path environment read).value =
      .error (.badVariable f raw) := by
  obtain ⟨f, raw, herror⟩ := variableEntries_of_not_isReadable h
  refine ⟨f, raw, ?_⟩
  rw [value_load, hentries, herror]
  rfl

variable (hentries : pathEntries read d path = .ok entries)
  (hreadable : ∀ f : Field, f.IsReadable environment)

include hentries hreadable

theorem load_of_unknown (h : ¬ ∀ entry ∈ entries, IsFieldName entry.1.text?) :
    (Configuration.load d temporary path environment read).value =
      .error (unknownError (unknownNames (entries ++ variableLayer environment Field.all))) := by
  have hunknown : ¬ ∀ entry ∈ entries ++ variableLayer environment Field.all,
      IsFieldName entry.1.text? := mt forall_append_variableLayer.1 h
  rw [value_load, hentries, variableEntries_of_isReadable hreadable]
  change (Configuration.ofEntries _ _ >>= _) = _
  rw [ofEntries_of_unknown hunknown]
  rfl

theorem load_of_known (h : ∀ entry ∈ entries, IsFieldName entry.1.text?) :
    (Configuration.load d temporary path environment read).value =
      ((Configuration.settled temporary entries environment).check >>= fun _ =>
        if (Configuration.settled temporary entries environment).isShowable then
          .ok (Configuration.settled temporary entries environment)
        else .error .notShowable) := by
  rw [value_load, hentries, variableEntries_of_isReadable hreadable]
  change (Configuration.ofEntries _ _ >>= _) = _
  rw [ofEntries_of_known h]
  cases (Configuration.settled temporary entries environment).check <;> rfl

end Load

section Outcomes

variable {read : SettingReader} {d : Disk} {temporary : String} {path : Option String}
  {environment : List (String × String)} {entries : Entries} {c : Configuration}

/-- How far loading comes, and what it gives there. -/
theorem load_cases (read : SettingReader) (d : Disk) (temporary : String) (path : Option String)
    (environment : List (String × String)) :
    (∃ e, pathEntries read d path = .error e ∧
      (Configuration.load d temporary path environment read).value = .error e) ∨
    ∃ entries, pathEntries read d path = .ok entries ∧
      ((∃ f raw, (Configuration.load d temporary path environment read).value =
          .error (.badVariable f raw)) ∨
        (∀ f : Field, f.IsReadable environment) ∧
          ((Configuration.load d temporary path environment read).value =
              .error (unknownError (unknownNames (entries ++
                variableLayer environment Field.all))) ∨
            (∀ entry ∈ entries, IsFieldName entry.1.text?) ∧
              (Configuration.load d temporary path environment read).value =
                ((Configuration.settled temporary entries environment).check >>= fun _ =>
                  if (Configuration.settled temporary entries environment).isShowable then
                    .ok (Configuration.settled temporary entries environment)
                  else .error .notShowable))) := by
  cases hentries : pathEntries read d path with
  | error e => exact Or.inl ⟨e, rfl, load_of_error hentries⟩
  | ok entries =>
      refine Or.inr ⟨entries, rfl, ?_⟩
      by_cases hreadable : ∀ f : Field, f.IsReadable environment
      · refine Or.inr ⟨hreadable, ?_⟩
        by_cases hknown : ∀ entry ∈ entries, IsFieldName entry.1.text?
        · exact Or.inr ⟨hknown, load_of_known hentries hreadable hknown⟩
        · exact Or.inl (load_of_unknown hentries hreadable hknown)
      · exact Or.inl (load_of_not_isReadable temporary hentries hreadable)

theorem load_eq_ok_iff :
    (Configuration.load d temporary path environment read).value = .ok c ↔
      ∃ entries, pathEntries read d path = .ok entries ∧
        c.IsLoaded temporary entries environment := by
  constructor
  · intro hload
    -- the steps of loading, of which all but the last have an error of their own
    rcases load_cases read d temporary path environment with ⟨e, -, h⟩ |
        ⟨entries, hentries, ⟨f, raw, h⟩ | ⟨hreadable, h | ⟨hknown, h⟩⟩⟩ <;> rw [h] at hload
    · cases hload
    · cases hload
    · cases hload
    · refine ⟨entries, hentries, ?_⟩
      cases hcheck : (Configuration.settled temporary entries environment).check with
      | error e =>
          rw [hcheck] at hload
          cases hload
      | ok _ =>
          rw [hcheck] at hload
          change (if _ then _ else _) = _ at hload
          split at hload
          · rename_i hshowable
            cases hload
            exact ⟨hknown, hreadable, rfl, Configuration.check_eq_ok_iff.1 hcheck,
              Configuration.isShowable_iff.1 hshowable⟩
          · cases hload
  · rintro ⟨entries, hentries, hknown, hreadable, rfl, hbounded, hshowable⟩
    rw [load_of_known hentries hreadable hknown, Configuration.check_eq_ok_iff.2 hbounded]
    exact if_pos (Configuration.isShowable_iff.2 hshowable)

/-- What is refused without words is unloadable. -/
theorem unloadable_of_load {e : ConfigError}
    (hload : (Configuration.load d temporary path environment read).value = .error e)
    (hwords : isAnswered e = false) : Unloadable read d temporary path environment := by
  rcases load_cases read d temporary path environment with ⟨e', hentries, h⟩ |
      ⟨entries, hentries, ⟨f, raw, h⟩ | ⟨hreadable, h | ⟨hknown, h⟩⟩⟩ <;> rw [h] at hload
  · cases hload
    obtain ⟨p, content, hpath, hp, hread, hfaulty⟩ :=
      exists_pathEntries_eq_error_iff.1 ⟨e, hentries, hwords⟩
    exact .document hpath hp hread hfaulty
  · cases hload
    cases hwords
  · -- what is no text is among the names of the document, since variables are named by texts
    cases hload
    obtain ⟨k, hk, hnone⟩ := isAnswered_unknownError_iff.1 hwords
    obtain ⟨⟨entry, hentry, htext⟩, hunknown⟩ := exists_mem_unknownNames.1 ⟨k, hk, hnone⟩
    rcases List.mem_append.1 hentry with hentry | hentry
    · exact .name hentries hreadable hentry htext
    · exact absurd (htext ▸ isFieldName_variableLayer entry hentry) hunknown
  · refine .number hentries hknown hreadable ?_
    cases hcheck : (Configuration.settled temporary entries environment).check with
    | error e' =>
        rw [hcheck] at hload
        cases hload
        obtain ⟨f, hf, hlong⟩ := Configuration.exists_check_eq_error_iff.1 ⟨e, hcheck, hwords⟩
        exact .refused hf hlong
    | ok _ =>
        rw [hcheck] at hload
        change (if _ then _ else _) = _ at hload
        split at hload
        · cases hload
        · rename_i hlong
          obtain ⟨f, hf⟩ := Classical.not_forall.1 (mt Configuration.isShowable_iff.2 hlong)
          exact .reported (Configuration.check_eq_ok_iff.1 hcheck) (Bool.eq_false_iff.2 hf)

theorem Unloadable.exists_load_eq_error (h : Unloadable read d temporary path environment) :
    ∃ e, (Configuration.load d temporary path environment read).value = .error e ∧
      isAnswered e = false := by
  cases h with
  | document hpath hp hread hfaulty =>
      obtain ⟨e, he, hwords⟩ :=
        exists_pathEntries_eq_error_iff.2 ⟨_, _, hpath, hp, hread, hfaulty⟩
      exact ⟨e, load_of_error he, hwords⟩
  | @name entries entry hentries hreadable hentry htext =>
      -- a name that is no text names no field
      have hunknown : ¬ IsFieldName none := by
        rintro ⟨f, hf⟩
        cases hf
      have hnot : ¬ ∀ entry ∈ entries, IsFieldName entry.1.text? :=
        fun hknown => hunknown (htext ▸ hknown entry hentry)
      refine ⟨_, load_of_unknown hentries hreadable hnot, isAnswered_unknownError_iff.2 ?_⟩
      exact exists_mem_unknownNames.2
        ⟨⟨entry, List.mem_append_left _ hentry, htext⟩, hunknown⟩
  | number hentries hknown hreadable hlong =>
      rw [load_of_known hentries hreadable hknown]
      cases hlong with
      | refused hf hlong =>
          obtain ⟨e, he, hwords⟩ := Configuration.exists_check_eq_error_iff.2 ⟨_, hf, hlong⟩
          exact ⟨e, by rw [he]; rfl, hwords⟩
      | @reported f hbounded hlong =>
          -- a number that is too long for a report is met when all else is settled
          refine ⟨.notShowable, ?_, rfl⟩
          rw [Configuration.check_eq_ok_iff.2 hbounded]
          refine if_neg fun hshowable => ?_
          rw [Configuration.isShowable_iff.1 hshowable f] at hlong
          cases hlong

/-- Only a document gives a value of a wrong kind, and only where no variable takes its place. -/
theorem forall_admits_iff (h : c.IsLoaded temporary entries environment) :
    (∀ f : Field, f.kind.Admits (c.value f)) ↔
      ∀ (f : Field) (v : Setting), environment.lookup f.variableName = none →
        fieldValue? entries f = some v → f.kind.Admits v := by
  have hvalue : ∀ f : Field, c.value f =
      ((f.given? environment).or (fieldValue? entries f)).getD (f.usual temporary) := by
    intro f
    rw [h.settled]
    rfl
  constructor
  · intro hall f v hunset hgiven
    have hkind := hall f
    rw [hvalue f, Field.given?, hunset, hgiven] at hkind
    exact hkind
  · intro hdocument f
    rw [hvalue f, Field.given?]
    -- a variable comes before the document, and what neither gives is usual
    cases hset : environment.lookup f.variableName with
    | some raw =>
        obtain ⟨v, hv⟩ := Option.isSome_iff_exists.1 (h.readable f raw hset)
        rw [Option.bind_some, hv]
        exact admits_of_variableValue? hv
    | none =>
        cases hgiven : fieldValue? entries f with
        | some v => exact hdocument f v hset hgiven
        | none => exact f.usual_admits temporary

end Outcomes

/--
What comes of loading a configuration, from any document, however it is read, and any variables. A
configuration is loaded exactly from names of fields and readable variables if the values that count
are within the bounds and not too long to be reported; its values are all of the kinds of their
fields exactly if the document gives no others where no variable counts. All else is refused in
words, but for the inputs that are unloadable.
-/
theorem load_settles (read : SettingReader) (d : Disk) (temporary : String)
    (path : Option String) (environment : List (String × String)) :
    (∀ c, (Configuration.load d temporary path environment read).value = .ok c ↔
      ∃ entries, pathEntries read d path = .ok entries ∧
        c.IsLoaded temporary entries environment) ∧
    (∀ c entries, Configuration.IsLoaded c temporary entries environment →
      ((∀ f : Field, f.kind.Admits (c.value f)) ↔
        ∀ (f : Field) (v : Setting), environment.lookup f.variableName = none →
          fieldValue? entries f = some v → f.kind.Admits v)) ∧
    ((∃ e, (Configuration.load d temporary path environment read).value = .error e ∧
        isAnswered e = false) ↔
      Unloadable read d temporary path environment) :=
  ⟨fun _ => load_eq_ok_iff, fun _ _ => forall_admits_iff,
    fun h => h.elim fun _ h => unloadable_of_load h.1 h.2, Unloadable.exists_load_eq_error⟩

/-- A disk with a document of settings. -/
def settingsDisk (text : String) : Disk where
  entries := [(["audit.yaml"], .file (encodeUtf8 text))]
  workplace := []

/--
A name that is no text, and a flag that is none. The second document gives a time limit, since the
usual one is a double.
-/
theorem load_settles_oddDocuments :
    Unloadable Setting.ofYaml (settingsDisk "1: blue\n") "/tmp" (some "/audit.yaml") [] ∧
    ∃ c entries,
      (Configuration.load (settingsDisk "use_bedrock: maybe\nai_timeout_seconds: 5\n") "/tmp"
        (some "/audit.yaml") []).value = .ok c ∧
      c.IsLoaded "/tmp" entries [] ∧ ¬ Field.useBedrock.kind.Admits (c.value .useBedrock) ∧
      ¬ ∀ (f : Field) (v : Setting), ([] : List (String × String)).lookup f.variableName = none →
        fieldValue? entries f = some v → f.kind.Admits v := by
  obtain ⟨-, -, hunloadable⟩ :=
    load_settles Setting.ofYaml (settingsDisk "1: blue\n") "/tmp" (some "/audit.yaml") []
  obtain ⟨hloaded, hkinds, -⟩ :=
    load_settles Setting.ofYaml (settingsDisk "use_bedrock: maybe\nai_timeout_seconds: 5\n") "/tmp"
      (some "/audit.yaml") []
  -- each run is told by a part that can be computed
  refine ⟨hunloadable.1 ?_, ?_⟩
  · have hrun : (((Configuration.load (settingsDisk "1: blue\n") "/tmp" (some "/audit.yaml")
        []).value.map fun _ => ()).mapError isAnswered) = .error false := by decide +kernel
    cases hload : (Configuration.load (settingsDisk "1: blue\n") "/tmp" (some "/audit.yaml")
        []).value with
    | ok c =>
        rw [hload] at hrun
        cases hrun
    | error e =>
        rw [hload] at hrun
        exact ⟨e, rfl, Except.error.inj hrun⟩
  · have hrun : ((Configuration.load (settingsDisk "use_bedrock: maybe\nai_timeout_seconds: 5\n")
        "/tmp" (some "/audit.yaml") []).value.toOption.bind fun c =>
          (c.value .useBedrock).text?) = some "maybe" := by decide +kernel
    cases hload : (Configuration.load (settingsDisk "use_bedrock: maybe\nai_timeout_seconds: 5\n")
        "/tmp" (some "/audit.yaml") []).value with
    | error e =>
        rw [hload] at hrun
        cases hrun
    | ok c =>
        obtain ⟨entries, -, hc⟩ := (hloaded c).1 hload
        have hwrong : ¬ Field.useBedrock.kind.Admits (c.value .useBedrock) := by
          rw [hload] at hrun
          intro hkind
          cases hvalue : c.value .useBedrock with
          | text s =>
              rw [hvalue] at hkind
              cases hkind
          | _ =>
              simp [Except.toOption, hvalue, Setting.text?] at hrun
        exact ⟨c, entries, rfl, hc, hwrong, fun hall => hwrong ((hkinds c entries hc).2 hall _)⟩

end RoleAudit
