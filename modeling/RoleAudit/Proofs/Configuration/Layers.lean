import RoleAudit.Proofs.Configuration

/-!
# The layers of a configuration

A field has the value of its option, or else that of its variable, or else that of the document,
or else its usual one. Each layer is absent in its own way: an option that is not given, a variable
that is not set, a name that the document does not have. The bounds are checked before the options
are looked at, and again after them.

- `Layers`: what the layers give; `Field.From`: the value of a field, by the layer that it comes
  from; `Field.from_iff`: there is one such value;
- `foldl_put_optionFields`: what the options change;
- `configurationOf_eq_ok_iff`: the configurations that the command makes;
- `value_eq_of_agreeOn`: commands whose layers say the same about a field give it the same value;
- `Layers.LacksChoice`: the document gives a field none of its choices, and no variable gives it
  one;
- `settings_layered`: the values of all fields, each by its own layers, and what becomes of a field
  that lacks a choice.
-/

namespace RoleAudit

open RoleAudit.CheckCommand

/-! ## Layers -/

/-- What the layers of a configuration give, the lowest one first. -/
structure Layers where
  /-- The directory for files of short life, which the usual values depend on. -/
  temporary : String
  document : Entries
  environment : List (String × String)
  options : List (String × String)

/-- The value that an option gives a field; few fields have one. -/
def Field.chosen? (f : Field) (options : List (String × String)) : Option Setting :=
  match f with
  | .oracle | .resourceStrategy | .completeness => (options.lookup f.name).map .text
  | .debug => (options.lookup f.name).map fun _ => .bool true
  | _ => none

/-- The value of a field comes from the highest layer that gives one. -/
inductive Field.From (f : Field) (l : Layers) : Setting → Prop
  | ofOption {v : Setting} (hoption : f.chosen? l.options = some v) : From f l v
  | ofVariable {raw : String} {v : Setting} (hoption : f.chosen? l.options = none)
      (hset : l.environment.lookup f.variableName = some raw)
      (hraw : variableValue? f.kind raw = some v) : From f l v
  | ofDocument {v : Setting} (hoption : f.chosen? l.options = none)
      (hunset : l.environment.lookup f.variableName = none)
      (hgiven : fieldValue? l.document f = some v) : From f l v
  | ofDefault (hoption : f.chosen? l.options = none)
      (hunset : l.environment.lookup f.variableName = none)
      (habsent : fieldValue? l.document f = none) : From f l (f.usual l.temporary)

namespace Layers

/-- The configuration of the document and the variables. -/
def loaded (l : Layers) : Configuration :=
  .settled l.temporary l.document l.environment

/-- The configuration of all layers. -/
def configuration (l : Layers) : Configuration :=
  ⟨fun f => (f.chosen? l.options).getD (l.loaded.value f)⟩

/-- The layers say the same about a field. -/
structure AgreeOn (f : Field) (l l' : Layers) : Prop where
  usual : f.usual l.temporary = f.usual l'.temporary
  document : fieldValue? l.document f = fieldValue? l'.document f
  environment : l.environment.lookup f.variableName = l'.environment.lookup f.variableName
  options : f.chosen? l.options = f.chosen? l'.options

end Layers

section From

variable {l l' : Layers} {f : Field} {v : Setting}

theorem Field.From.of_agreeOn (h : Layers.AgreeOn f l l') (hfrom : f.From l v) : f.From l' v := by
  cases hfrom with
  | ofOption hoption => exact .ofOption (h.options ▸ hoption)
  | ofVariable hoption hset hraw =>
      exact .ofVariable (h.options ▸ hoption) (h.environment ▸ hset) hraw
  | ofDocument hoption hunset hgiven =>
      exact .ofDocument (h.options ▸ hoption) (h.environment ▸ hunset) (h.document ▸ hgiven)
  | ofDefault hoption hunset habsent =>
      rw [h.usual]
      exact .ofDefault (h.options ▸ hoption) (h.environment ▸ hunset) (h.document ▸ habsent)

/-- A field has one value if its variable can be read. -/
theorem Field.from_iff (h : f.IsReadable l.environment) :
    f.From l v ↔ v = l.configuration.value f := by
  have hvalue : l.configuration.value f = (f.chosen? l.options).getD
      (((f.given? l.environment).or (fieldValue? l.document f)).getD (f.usual l.temporary)) := rfl
  rw [hvalue, Field.given?]
  constructor
  · intro hfrom
    cases hfrom with
    | ofOption hoption => simp [hoption]
    | ofVariable hoption hset hraw => simp [hoption, hset, hraw]
    | ofDocument hoption hunset hgiven => simp [hoption, hunset, hgiven]
    | ofDefault hoption hunset habsent => simp [hoption, hunset, habsent]
  · rintro rfl
    -- the layers are asked one after the other, from the highest one
    cases hoption : f.chosen? l.options with
    | some v => exact .ofOption hoption
    | none =>
        cases hset : l.environment.lookup f.variableName with
        | some raw =>
            obtain ⟨v, hraw⟩ := Option.isSome_iff_exists.1 (h raw hset)
            simpa [hraw] using Field.From.ofVariable hoption hset hraw
        | none =>
            cases hgiven : fieldValue? l.document f with
            | some v => simpa using Field.From.ofDocument hoption hset hgiven
            | none => simpa using Field.From.ofDefault hoption hset hgiven

end From

/-! ## Options -/

/-- The fields that have options. -/
def Field.optional : List Field :=
  [oracle, resourceStrategy, completeness, debug]

theorem Field.chosen?_eq (f : Field) (options : List (String × String)) :
    f.chosen? options = if f ∈ Field.optional then
      (options.lookup f.name).map fun v => if f.kind == .flag then .bool true else .text v
    else none := by
  cases f <;> rfl

/-- Values that are put one after the other, each for its own field. -/
theorem value_foldl_put (given? : Field → Option Setting) (fields : List Field)
    (c : Configuration) (f : Field) :
    ((fields.filterMap fun g => (given? g).map fun v => (g, v)).foldl
        (fun c entry => c.put entry.1 entry.2) c).value f =
      if f ∈ fields then (given? f).getD (c.value f) else c.value f := by
  induction fields generalizing c with
  | nil => rfl
  | cons g rest ih =>
      cases hgiven : given? g with
      | none =>
          rw [List.filterMap_cons_none (by simp [hgiven]), ih]
          by_cases hsame : f = g
          · simp [hsame, hgiven]
          · simp [hsame]
      | some v =>
          rw [List.filterMap_cons_some (b := (g, v)) (by simp [hgiven]), List.foldl_cons, ih]
          by_cases hsame : f = g
          · -- if the field is put once more, it is with the same value
            simp [hsame, hgiven, Configuration.put]
          · simp [hsame, Configuration.put]

theorem foldl_put_optionFields (l : Layers) :
    (optionFields l.options).foldl (fun c entry => c.put entry.1 entry.2) l.loaded =
      l.configuration := by
  have hvalue : ∀ f, ((optionFields l.options).foldl (fun c entry => c.put entry.1 entry.2)
      l.loaded).value f = l.configuration.value f := by
    intro f
    have hput := value_foldl_put (fun g => (l.options.lookup g.name).map fun v =>
      if g.kind == .flag then .bool true else .text v) Field.optional l.loaded f
    simp only [Option.map_map] at hput
    refine hput.trans ?_
    simp only [Layers.configuration, Field.chosen?_eq]
    split <;> rfl
  exact congrArg Configuration.mk (funext hvalue)

/-- The bounds are checked again after the options are put in. -/
theorem override_optionFields (l : Layers) :
    l.loaded.override (optionFields l.options) =
      l.configuration.check.map fun _ => l.configuration := by
  rw [← foldl_put_optionFields]
  rfl

/-! ## The configuration of the command -/

/-- The layers of a command, with the entries of its document. -/
def CheckCommand.Surroundings.layers (s : Surroundings) (document : Entries)
    (options : List (String × String)) : Layers :=
  ⟨s.temporary, document, s.environment, options⟩

section Command

variable {s : Surroundings} {d : Disk} {options : List (String × String)} {r : Readers}
  {document : Entries} {c : Configuration}

theorem value_configurationOf (s : Surroundings) (d : Disk) (options : List (String × String))
    (r : Readers) :
    (configurationOf s d options r).value =
      (Configuration.load d s.temporary (options.lookup "config") s.environment
        r.settings).value.bind fun c => c.override (optionFields options) := rfl

/-- A document and variables that are loaded, with options that keep the bounds. -/
theorem configurationOf_eq_ok_iff :
    (configurationOf s d options r).value = .ok c ↔
      ∃ document, pathEntries r.settings d (options.lookup "config") = .ok document ∧
        (s.layers document options).loaded.IsLoaded s.temporary document s.environment ∧
        c = (s.layers document options).configuration ∧ c.IsBounded := by
  rw [value_configurationOf]
  constructor
  · intro h
    cases hload : (Configuration.load d s.temporary (options.lookup "config")
        s.environment r.settings).value with
    | error e =>
        rw [hload] at h
        cases h
    | ok first =>
        rw [hload] at h
        obtain ⟨document, hdocument, hloaded⟩ := load_eq_ok_iff.1 hload
        have hfirst : first = (s.layers document options).loaded := hloaded.settled
        rw [hfirst] at h hloaded
        -- the options lie over what is loaded, and all of it is checked again
        have hchecked := (override_optionFields (s.layers document options)).symm.trans h
        cases hcheck : (s.layers document options).configuration.check with
        | error e =>
            rw [hcheck] at hchecked
            cases hchecked
        | ok _ =>
            rw [hcheck] at hchecked
            cases hchecked
            exact ⟨document, hdocument, hloaded, rfl, Configuration.check_eq_ok_iff.1 hcheck⟩
  · rintro ⟨document, hdocument, hloaded, rfl, hbounded⟩
    rw [load_eq_ok_iff.2 ⟨document, hdocument, hloaded⟩]
    refine (override_optionFields (s.layers document options)).trans ?_
    rw [Configuration.check_eq_ok_iff.2 hbounded]
    rfl

/-- Where loading fails, the options are not looked at. -/
theorem configurationOf_of_load_error {e : ConfigError}
    (h : (Configuration.load d s.temporary (options.lookup "config") s.environment
      r.settings).value = .error e) : (configurationOf s d options r).value = .error e := by
  rw [value_configurationOf, h]
  rfl

end Command

/-! ## Fields that lack a choice -/

/-- The document gives a field none of its choices, and no variable gives it one. -/
structure Layers.LacksChoice (l : Layers) (f : Field) : Prop where
  restricted : f ∈ Field.restricted
  given : ∃ v, fieldValue? l.document f = some v ∧ ∀ choice ∈ f.choices, v ≠ .text choice
  unreplaced : ∀ choice ∈ f.choices, f.given? l.environment ≠ some (.text choice)

/-- What is to be put into words is a name that is no text, or a choice that is too long. -/
inductive Layers.Wordless (l : Layers) : Prop
  | name {entry : Setting × Setting} (hentry : entry ∈ l.document) (h : entry.1.text? = none)
  | choice {f : Field} (hknown : ∀ entry ∈ l.document, IsFieldName entry.1.text?)
      (hf : FirstOf (fun f => ¬ l.loaded.HasChoice f) f Field.restricted)
      (hlong : (l.loaded.value f).isShowable = false)

section Lacking

variable {l : Layers} {f : Field} {read : SettingReader} {d : Disk} {path : Option String}

theorem Layers.LacksChoice.not_hasChoice (h : l.LacksChoice f) : ¬ l.loaded.HasChoice f := by
  rintro ⟨choice, hchoice, hvalue⟩
  have hlayers : ((f.given? l.environment).or (fieldValue? l.document f)).getD
      (f.usual l.temporary) = .text choice := hvalue
  cases hgiven : f.given? l.environment with
  | some v =>
      -- the variable counts, and it gives no choice
      rw [hgiven] at hlayers
      exact h.unreplaced choice hchoice (hgiven.trans (congrArg some hlayers))
  | none =>
      obtain ⟨v, hv, hnone⟩ := h.given
      rw [hgiven, hv] at hlayers
      exact hnone choice hchoice hlayers

theorem Layers.LacksChoice.not_isBounded (h : l.LacksChoice f) : ¬ l.loaded.IsBounded :=
  fun hbounded => h.not_hasChoice (hbounded.choices f h.restricted)

theorem unloadable_iff_wordless (hdocument : pathEntries read d path = .ok l.document)
    (hunbounded : ¬ l.loaded.IsBounded) :
    Unloadable read d l.temporary path l.environment ↔
      (∀ f : Field, f.IsReadable l.environment) ∧ l.Wordless := by
  constructor
  · intro h
    cases h with
    | document hpath hp hread hfaulty =>
        -- the document has been read
        obtain ⟨e, he, -⟩ :=
          exists_pathEntries_eq_error_iff.2 ⟨_, _, hpath, hp, hread, hfaulty⟩
        cases hdocument.symm.trans he
    | name hentries hreadable hentry htext =>
        cases hdocument.symm.trans hentries
        exact ⟨hreadable, .name hentry htext⟩
    | number hentries hknown hreadable hlong =>
        cases hdocument.symm.trans hentries
        cases hlong with
        | refused hf hlong => exact ⟨hreadable, .choice hknown hf hlong⟩
        -- a report is only made where all choices are
        | reported hbounded _ => exact absurd hbounded hunbounded
  · rintro ⟨hreadable, hwordless⟩
    cases hwordless with
    | name hentry htext => exact .name hdocument hreadable hentry htext
    | choice hknown hf hlong => exact .number hdocument hknown hreadable (.refused hf hlong)

/-- A configuration without its choices is not loaded; it is refused in words if there are any. -/
theorem exists_load_eq_error (hdocument : pathEntries read d path = .ok l.document)
    (hunbounded : ¬ l.loaded.IsBounded) :
    ∃ e, (Configuration.load d l.temporary path l.environment read).value = .error e ∧
      (isAnswered e = false ↔ (∀ f : Field, f.IsReadable l.environment) ∧ l.Wordless) := by
  rw [← unloadable_iff_wordless hdocument hunbounded]
  cases hload : (Configuration.load d l.temporary path l.environment read).value with
  | ok c =>
      obtain ⟨entries, hentries, hloaded⟩ := load_eq_ok_iff.1 hload
      cases hdocument.symm.trans hentries
      have hc : c = l.loaded := hloaded.settled
      exact absurd (hc ▸ hloaded.bounded) hunbounded
  | error e =>
      refine ⟨e, rfl, fun hwords => unloadable_of_load hload hwords, fun h => ?_⟩
      obtain ⟨e', he', hwords⟩ := h.exists_load_eq_error
      cases hload.symm.trans he'
      exact hwords

end Lacking

/-- Two commands give a field the same value if their layers say the same about it. -/
theorem value_eq_of_agreeOn {s s' : Surroundings} {d d' : Disk}
    {options options' : List (String × String)} {r r' : Readers} {document document' : Entries}
    {c c' : Configuration} {f : Field}
    (hmade : (configurationOf s d options r).value = .ok c)
    (hdocument : pathEntries r.settings d (options.lookup "config") = .ok document)
    (hmade' : (configurationOf s' d' options' r').value = .ok c')
    (hdocument' : pathEntries r'.settings d' (options'.lookup "config") = .ok document')
    (h : Layers.AgreeOn f (s.layers document options) (s'.layers document' options')) :
    c.value f = c'.value f := by
  obtain ⟨_, hread, hloaded, rfl, -⟩ := configurationOf_eq_ok_iff.1 hmade
  cases hdocument.symm.trans hread
  obtain ⟨_, hread', hloaded', rfl, -⟩ := configurationOf_eq_ok_iff.1 hmade'
  cases hdocument'.symm.trans hread'
  have hreadable : f.IsReadable (s.layers document options).environment := hloaded.readable f
  have hreadable' : f.IsReadable (s'.layers document' options').environment := hloaded'.readable f
  -- the value of one command comes from its layers, and so it comes from those of the other one
  exact (Field.from_iff hreadable').1 (((Field.from_iff hreadable).2 rfl).of_agreeOn h)

/--
However documents are read, the command makes a configuration exactly from a document and variables
that are loaded and options that keep the bounds, and it has for each field the value of the highest
layer that gives one. What the layers say about other fields does not matter: if two commands agree
about a field, they give it the same value. If the document gives a field none of its choices and no
variable gives it one, loading fails, whatever the options say; it is refused in words unless all
variables can be read, and the document has a name that is no text, or else the first choice that is
none is a number too long for words.
-/
theorem settings_layered (s : Surroundings) (d : Disk) (options : List (String × String))
    (r : Readers) :
    (∀ c, (configurationOf s d options r).value = .ok c ↔
      ∃ document, pathEntries r.settings d (options.lookup "config") = .ok document ∧
        (s.layers document options).loaded.IsLoaded s.temporary document s.environment ∧
        c.IsBounded ∧ ∀ f : Field, f.From (s.layers document options) (c.value f)) ∧
    (∀ (s' : Surroundings) (d' : Disk) (options' : List (String × String)) (r' : Readers)
        (document document' : Entries) (c c' : Configuration) (f : Field),
      (configurationOf s d options r).value = .ok c →
      pathEntries r.settings d (options.lookup "config") = .ok document →
      (configurationOf s' d' options' r').value = .ok c' →
      pathEntries r'.settings d' (options'.lookup "config") = .ok document' →
      Layers.AgreeOn f (s.layers document options) (s'.layers document' options') →
      c.value f = c'.value f) ∧
    ∀ (document : Entries) (f : Field),
      pathEntries r.settings d (options.lookup "config") = .ok document →
      (s.layers document options).LacksChoice f →
      ∃ e, (Configuration.load d s.temporary (options.lookup "config") s.environment
          r.settings).value = .error e ∧
        (configurationOf s d options r).value = .error e ∧
        (isAnswered e = false ↔ (∀ f : Field, f.IsReadable s.environment) ∧
          (s.layers document options).Wordless) := by
  refine ⟨fun c => ?_, ?_, fun document f hdocument hlacks => ?_⟩
  · refine configurationOf_eq_ok_iff.trans (exists_congr fun document => ?_)
    refine and_congr_right fun _ => and_congr_right fun hloaded => ?_
    have hfrom : (∀ f : Field, f.From (s.layers document options) (c.value f)) ↔
        c = (s.layers document options).configuration := by
      simp only [Field.from_iff (l := s.layers document options) (hloaded.readable _)]
      exact ⟨fun h => congrArg Configuration.mk (funext h), fun h f => by rw [h]⟩
    rw [hfrom, and_comm]
  · intro s' d' options' r' document document' c c' f hmade hdocument hmade' hdocument' h
    exact value_eq_of_agreeOn hmade hdocument hmade' hdocument' h
  · obtain ⟨e, hload, hwords⟩ := exists_load_eq_error hdocument hlacks.not_isBounded
    exact ⟨e, hload, configurationOf_of_load_error hload, hwords⟩

/-- Two variables: one is empty, and one gives a choice. -/
def variedSurroundings : Surroundings :=
  ⟨[("PERMCHECK_PROJECT_DIR_NAME", ""), ("PERMCHECK_COMPLETENESS", "condition_optional ")], "/tmp",
    Services.none "" "", ⟨"", ""⟩⟩

/-- Options that name a document and give two fields. -/
def variedOptions : List (String × String) :=
  [("config", "/audit.yaml"), ("oracle", "static"), ("debug", "on")]

/-- A document with two values that are replaced, one of them no choice, and one that counts. -/
def variedDocument : String :=
  "project_dir_name: shop\ncompleteness: some\nresource_strategy: base_path\n"

theorem exists_lacksChoice (text : String)
    (h : ((pathEntries Setting.ofYaml (settingsDisk text)
      (variedOptions.lookup "config")).toOption.bind fun entries =>
        (fieldValue? entries .oracle).bind Setting.text?) = some "dynamic") :
    ∃ document,
      pathEntries Setting.ofYaml (settingsDisk text) (variedOptions.lookup "config") =
        .ok document ∧
      (variedSurroundings.layers document variedOptions).LacksChoice .oracle := by
  cases hdocument : pathEntries Setting.ofYaml (settingsDisk text)
      (variedOptions.lookup "config") with
  | error e =>
      rw [hdocument] at h
      cases h
  | ok document =>
      rw [hdocument] at h
      obtain ⟨_, ⟨⟩, hlast⟩ := Option.bind_eq_some_iff.1 h
      obtain ⟨v, hv, htext⟩ := Option.bind_eq_some_iff.1 hlast
      -- the variable of this field is not set
      have hunset : Field.oracle.given? variedSurroundings.environment = none := by decide
      refine ⟨document, rfl, by decide, ⟨v, hv, ?_⟩, fun choice _ hset => ?_⟩
      · rintro choice hchoice rfl
        cases htext
        revert hchoice
        decide
      · cases hunset.symm.trans hset

theorem settings_layered_variedDocument :
    (∃ c document, (configurationOf variedSurroundings (settingsDisk variedDocument)
        variedOptions).value = .ok c ∧
      (∀ f : Field, f.From (variedSurroundings.layers document variedOptions) (c.value f)) ∧
      [Field.oracle, .projectDirectory, .completeness, .resourceStrategy].map
        (fun f => (c.value f).text?) =
          [some "static", some "", some "condition_optional", some "base_path"]) ∧
    (∃ document e, (variedSurroundings.layers document variedOptions).LacksChoice .oracle ∧
      (configurationOf variedSurroundings (settingsDisk "oracle: dynamic\n") variedOptions).value =
        .error e) ∧
    ∃ document e, (variedSurroundings.layers document variedOptions).LacksChoice .oracle ∧
      (configurationOf variedSurroundings (settingsDisk "1: blue\noracle: dynamic\n")
        variedOptions).value = .error e ∧ isAnswered e = false := by
  refine ⟨?_, ?_, ?_⟩
  · have hrun : (configurationOf variedSurroundings (settingsDisk variedDocument)
        variedOptions).value.toOption.map (fun c =>
          [Field.oracle, .projectDirectory, .completeness, .resourceStrategy].map
            fun f => (c.value f).text?) =
          some [some "static", some "", some "condition_optional", some "base_path"] := by
      decide +kernel
    cases hc : (configurationOf variedSurroundings (settingsDisk variedDocument)
        variedOptions).value with
    | error e =>
        rw [hc] at hrun
        cases hrun
    | ok c =>
        rw [hc] at hrun
        obtain ⟨hmade, -, -⟩ :=
          settings_layered variedSurroundings (settingsDisk variedDocument) variedOptions
            Readers.usual
        obtain ⟨document, -, -, -, hfrom⟩ := (hmade c).1 hc
        exact ⟨c, document, rfl, hfrom, Option.some.inj hrun⟩
  · obtain ⟨document, hdocument, hlacks⟩ :=
      exists_lacksChoice "oracle: dynamic\n" (by decide +kernel)
    obtain ⟨-, -, hlacking⟩ :=
      settings_layered variedSurroundings (settingsDisk "oracle: dynamic\n") variedOptions
        Readers.usual
    obtain ⟨e, -, he, -⟩ := hlacking document .oracle hdocument hlacks
    exact ⟨document, e, hlacks, he⟩
  · obtain ⟨document, hdocument, hlacks⟩ :=
      exists_lacksChoice "1: blue\noracle: dynamic\n" (by decide +kernel)
    obtain ⟨-, -, hlacking⟩ :=
      settings_layered variedSurroundings (settingsDisk "1: blue\noracle: dynamic\n") variedOptions
        Readers.usual
    obtain ⟨e, -, he, -⟩ := hlacking document .oracle hdocument hlacks
    have hwords : (((configurationOf variedSurroundings (settingsDisk "1: blue\noracle: dynamic\n")
        variedOptions).value.map fun _ => ()).mapError isAnswered) = .error false := by
      decide +kernel
    refine ⟨document, e, hlacks, he, ?_⟩
    rw [he] at hwords
    exact Except.error.inj hwords

end RoleAudit
