import Mathlib.Data.List.Forall2
import RoleAudit.Policy
import RoleAudit.Proofs.Text.Pieces

/-!
# What a policy document declares

A document is read as a tree, and the tree is flattened. Every rule element that stands where rules
are looked for gives one permission or one warning, in document order, and nothing else gives
either.

- `ruleElements`: the rule elements of a tree, each with its module;
- `Gives`: what one rule element gives, said of its child elements and their texts;
- `Element.essence`: a tree without all that the reader must not see: attributes, text after
  elements, elements that have no meaning where they stand, and blanks around texts;
- `rulesIn_exact`: the permissions and the log of a tree are what its rule elements give, and trees
  with one essence have the same ones.
-/

namespace RoleAudit
namespace Policy

open RoleAudit.Text RoleAudit.Xml

/-! ## What rule elements say -/

/-- The controller elements of a module. -/
def controllersOf (m : Element) : List Element :=
  m.children.filter fun child => startsWith child.tag "Controller"

/-- The rule elements of some modules in document order, each with the module it stands in. -/
def ruleElementsOf (modules : List Element) : List (Element × Element) :=
  modules.flatMap fun m => (controllersOf m).flatMap fun controller =>
    (controller.childrenNamed "Rule").map fun rule => (m, rule)

/-- The rule elements of a tree in document order, each with the module it stands in. -/
def ruleElements (root : Element) : List (Element × Element) :=
  ruleElementsOf (root.childrenNamed moduleName)

/-- Some character of the text is not blank. -/
def HasSign (s : String) : Prop :=
  ∃ c ∈ s.toList, isBlank c = false

instance (s : String) : Decidable (HasSign s) :=
  inferInstanceAs (Decidable (∃ c ∈ s.toList, isBlank c = false))

/-- The first child of the name has a text that is not blank; trimmed it is `said`. -/
def Says (e : Element) (name said : String) : Prop :=
  ∃ child, e.child? name = some child ∧ HasSign child.text ∧ said = strip child.text

/-- The texts that restrict a rule: those of the restrictions in its first condition, or the text
of that condition if there is no restriction in it. -/
def restrictingTexts (rule : Element) : List String :=
  match rule.child? "Condition" with
  | none => []
  | some condition =>
    match condition.childrenNamed "Restriction" with
    | [] => [condition.text]
    | parts => parts.map Element.text

/-- What a rule element in a module gives. -/
inductive Gives (m rule : Element) : LogRecord ⊕ Permission → Prop
  | permission {role action resource : String} (hrole : Says rule "Role" role)
      (haction : Says rule "Action" action) (hresource : Says rule "Resource" resource) :
      Gives m rule (.inr ⟨role, action, resource,
        joinWith "&&" (((restrictingTexts rule).filter (HasSign ·)).map squeeze)⟩)
  | warning {name : String} (hname : name ∈ ["Role", "Action", "Resource"])
      (hsilent : ∀ said, ¬ Says rule name said) :
      Gives m rule (.inl ⟨.warning, .policy, skippedMessage (moduleOf m) (ruleOf rule)⟩)

/-- The record on the modules of a tree, before those on its rules. -/
def opening (root : Element) : LogRecord :=
  match root.childrenNamed moduleName with
  | [] => ⟨.warning, .policy, "[POLICY] Policy document has no <Module> entries; no rules loaded"⟩
  | modules => ⟨.debug, .policy, "[POLICY] Parsed " ++ Decimal.natText modules.length ++ " modules"⟩

/-! ## Blank texts -/

theorem strip_eq_empty_iff (s : String) : strip s = "" ↔ ¬ HasSign s := by
  rw [← String.toList_inj, toList_strip, String.toList_empty]
  constructor
  · -- what is trimmed away entirely is blank from the front on
    intro h
    have hdrop : s.toList.dropWhile isBlank = [] := by
      have hcut : (s.toList.dropWhile isBlank).rdropWhile isBlank = [] := h
      cases hrest : s.toList.dropWhile isBlank with
      | nil => rfl
      | cons c rest =>
          have hblank := List.rdropWhile_eq_nil_iff.1 (hrest ▸ hcut) c List.mem_cons_self
          have hne : s.toList.dropWhile isBlank ≠ [] := hrest ▸ List.cons_ne_nil c rest
          have hnot := List.head_dropWhile_not isBlank hne
          simp only [hrest, List.head_cons] at hnot
          exact absurd hblank (by simp [hnot])
    rintro ⟨c, hc, hsign⟩
    have hblank := List.dropWhile_eq_nil_iff.1 hdrop c hc
    exact absurd hblank (by simp [hsign])
  · intro h
    have hdrop : s.toList.dropWhile isBlank = [] := by
      refine List.dropWhile_eq_nil_iff.2 fun c hc => ?_
      by_contra hsign
      exact h ⟨c, hc, by simpa using hsign⟩
    simp [trim, trimOf, hdrop]

theorem squeeze_eq_empty_iff (s : String) : squeeze s = "" ↔ ¬ HasSign s := by
  rw [← String.toList_inj, toList_squeeze, String.toList_empty, List.filter_eq_nil_iff]
  simp [HasSign]

theorem isBlank_of_mem_squeeze {s : String} {c : Char} (hc : c ∈ (squeeze s).toList) :
    isBlank c = false := by
  rw [toList_squeeze] at hc
  simpa using List.of_mem_filter hc

theorem strip_strip (s : String) : strip (strip s) = strip s := by
  rw [← String.toList_inj]
  simp only [toList_strip]
  exact trimOf_trimOf isBlank s.toList

/-- Trimming only drops what squeezing drops too. -/
theorem squeeze_strip (s : String) : squeeze (strip s) = squeeze s := by
  have hdrop : ∀ cs : List Char,
      (cs.dropWhile isBlank).filter (!isBlank ·) = cs.filter (!isBlank ·) := by
    intro cs
    induction cs with
    | nil => rfl
    | cons c rest ih =>
        by_cases hc : isBlank c = true
        · rw [List.dropWhile_cons_of_pos hc, ih, List.filter_cons_of_neg (by simp [hc])]
        · rw [List.dropWhile_cons_of_neg hc]
  rw [← String.toList_inj, toList_squeeze, toList_squeeze, toList_strip]
  -- a trim drops blanks on one side, and then on the other
  calc (trim s.toList).filter (!isBlank ·)
      = (((s.toList.dropWhile isBlank).reverse.dropWhile isBlank).filter (!isBlank ·)).reverse :=
        List.filter_reverse
    _ = ((s.toList.dropWhile isBlank).reverse.filter (!isBlank ·)).reverse := by rw [hdrop]
    _ = (s.toList.dropWhile isBlank).filter (!isBlank ·) := by
        rw [List.filter_reverse, List.reverse_reverse]
    _ = s.toList.filter (!isBlank ·) := hdrop s.toList

/-! ## One rule element -/

theorem textOf_eq_empty_iff (e : Element) (name : String) :
    textOf e name = "" ↔ ∀ said, ¬ Says e name said := by
  unfold textOf Says
  cases e.child? name with
  | none => simp
  | some child => simp [strip_eq_empty_iff]

theorem says_textOf {e : Element} {name : String} (h : textOf e name ≠ "") :
    Says e name (textOf e name) := by
  rw [Ne, textOf_eq_empty_iff] at h
  obtain ⟨said, child, hchild, hsign, -⟩ : ∃ said, Says e name said := by simpa using h
  exact ⟨child, hchild, hsign, by simp [textOf, hchild]⟩

theorem conditionOf_ruleOf (rule : Element) :
    conditionOf (ruleOf rule) =
      joinWith "&&" (((restrictingTexts rule).filter (HasSign ·)).map squeeze) := by
  have hkept : restrictionsOf rule =
      ((restrictingTexts rule).map squeeze).filter fun s => !s.isEmpty := by
    unfold restrictionsOf restrictingTexts
    cases rule.child? "Condition" with
    | none => rfl
    | some condition =>
        cases hparts : condition.childrenNamed "Restriction" <;> simp [hparts]
  have hsign : ((fun s : String => !s.isEmpty) ∘ squeeze) = (fun s => decide (HasSign s)) := by
    funext s
    have hempty : (squeeze s).isEmpty = true ↔ ¬ HasSign s := by
      rw [String.isEmpty_iff, squeeze_eq_empty_iff]
    by_cases h : HasSign s <;> simp_all
  rw [conditionOf, ruleOf, hkept, List.filter_map, hsign]

/-- No condition of a rule has a blank in it. -/
theorem isBlank_of_mem_conditionOf {rule : Element} {c : Char}
    (hc : c ∈ (conditionOf (ruleOf rule)).toList) : isBlank c = false := by
  rw [conditionOf_ruleOf] at hc
  rcases mem_joinWith hc with hsep | ⟨t, ht, hct⟩
  · have hamp : c = '&' := by simpa using hsep
    rw [hamp]
    decide
  · obtain ⟨s, -, rfl⟩ := List.mem_map.1 ht
    exact isBlank_of_mem_squeeze hct

theorem isEmpty_missingParts_iff (d : RuleDeclaration) :
    (missingParts d).isEmpty = true ↔ d.role ≠ "" ∧ d.action ≠ "" ∧ d.resource ≠ "" := by
  simp [missingParts]

/-- What the reader makes of a rule element in a module. -/
def outcomeOf (m rule : Element) : LogRecord ⊕ Permission :=
  if (missingParts (ruleOf rule)).isEmpty then .inr (permissionOf (ruleOf rule))
  else .inl ⟨.warning, .policy, skippedMessage (moduleOf m) (ruleOf rule)⟩

theorem gives_outcomeOf (m rule : Element) : Gives m rule (outcomeOf m rule) := by
  unfold outcomeOf
  split
  case isTrue hcomplete =>
    obtain ⟨hrole, haction, hresource⟩ := (isEmpty_missingParts_iff _).1 hcomplete
    rw [permissionOf, conditionOf_ruleOf]
    exact .permission (says_textOf hrole) (says_textOf haction) (says_textOf hresource)
  case isFalse hincomplete =>
    rw [isEmpty_missingParts_iff] at hincomplete
    -- one of the parts that is missing is named in the warning
    by_cases hrole : textOf rule "Role" = ""
    · exact .warning (by simp) ((textOf_eq_empty_iff rule "Role").1 hrole)
    · by_cases haction : textOf rule "Action" = ""
      · exact .warning (by simp) ((textOf_eq_empty_iff rule "Action").1 haction)
      · have hresource : textOf rule "Resource" = "" := by
          by_contra h
          exact hincomplete ⟨hrole, haction, h⟩
        exact .warning (by simp) ((textOf_eq_empty_iff rule "Resource").1 hresource)

/-! ## All rule elements of a tree -/

theorem rules_moduleOf (m : Element) :
    (moduleOf m).rules =
      ((controllersOf m).flatMap fun controller => controller.childrenNamed "Rule").map ruleOf :=
  rfl

/-- Reading the modules and then their rules reads the rule elements. -/
theorem flatMap_rules_moduleOf (modules : List Element) :
    ((modules.map moduleOf).flatMap fun m => m.rules.map fun d => (m, d)) =
      (ruleElementsOf modules).map fun (m, rule) => (moduleOf m, ruleOf rule) := by
  rw [ruleElementsOf, List.flatMap_map, List.map_flatMap]
  congr 1
  funext m
  rw [rules_moduleOf, List.map_map, List.map_flatMap, List.map_flatMap]
  simp only [List.map_map]
  rfl

/-- Choosing one of two sides for each item splits the items in two, in order. -/
theorem filterMap_sides {α β γ : Type} (chosen : α → Bool) (left : α → β) (right : α → γ)
    (items : List α) :
    let sides := items.map fun a => if chosen a then Sum.inr (right a) else Sum.inl (left a)
    sides.filterMap Sum.getLeft? = (items.filter fun a => !chosen a).map left ∧
      sides.filterMap Sum.getRight? = (items.filter chosen).map right := by
  simp only [List.filterMap_map]
  induction items with
  | nil => exact ⟨rfl, rfl⟩
  | cons a rest ih =>
      by_cases h : chosen a = true
      · simpa [List.filterMap_cons, h] using ih
      · simpa [List.filterMap_cons, h] using ih

/-- The complete rules of some modules are the outcomes of their rule elements, taken apart. -/
theorem rulesOf_map_moduleOf (modules : List Element) :
    let outcomes := (ruleElementsOf modules).map fun (m, rule) => outcomeOf m rule
    rulesOf (modules.map moduleOf) =
      ⟨outcomes.filterMap Sum.getLeft?, outcomes.filterMap Sum.getRight?⟩ := by
  have hsides := filterMap_sides
    (fun place : Element × Element => (missingParts (ruleOf place.2)).isEmpty)
    (fun place =>
      LogRecord.mk .warning .policy (skippedMessage (moduleOf place.1) (ruleOf place.2)))
    (fun place => permissionOf (ruleOf place.2)) (ruleElementsOf modules)
  unfold rulesOf outcomeOf
  rw [flatMap_rules_moduleOf]
  simp only [List.filter_map, List.map_map]
  rw [hsides.1, hsides.2]
  rfl

theorem rulesIn_of_tag {root : Element} (htag : root.tag = rootName) :
    let outcomes := (ruleElements root).map fun (m, rule) => outcomeOf m rule
    rulesIn root =
      ⟨opening root :: outcomes.filterMap Sum.getLeft?, outcomes.filterMap Sum.getRight?⟩ := by
  intro outcomes
  unfold rulesIn modulesOf opening
  rw [if_neg (by simp [htag])]
  cases hmodules : root.childrenNamed moduleName with
  | nil =>
      have hnone : outcomes = [] := by simp [outcomes, ruleElements, hmodules, ruleElementsOf]
      rw [hnone]
      rfl
  | cons m rest =>
      -- with modules there is one more note before those on the rules
      have hrules := rulesOf_map_moduleOf (m :: rest)
      have houtcomes : outcomes = (ruleElementsOf (m :: rest)).map fun (m, rule) =>
          outcomeOf m rule := by
        simp only [outcomes, ruleElements, hmodules]
      rw [houtcomes]
      show (Traced.note .debug .policy _ >>= fun _ => rulesOf ((m :: rest).map moduleOf)) = _
      rw [hrules]
      rfl

/-! ## What must not be seen -/

/-- What an element stands for in a policy. -/
inductive Part where
  | policies
  | group
  | controller
  | rule
  | condition
  | phrase

/-- What a child of a name stands for, if it has a meaning there. -/
def Part.inner? : Part → String → Option Part
  | .policies, name => if name = moduleName then some .group else none
  | .group, name =>
    if name = "Name" then some .phrase
    else if startsWith name "Controller" then some .controller
    else none
  | .controller, name => if name = "Rule" then some .rule else none
  | .rule, name =>
    if name = "Condition" then some .condition
    else if name ∈ ["RuleId", "Effect", "Role", "Action", "Resource", "Name"] then some .phrase
    else none
  | .condition, name => if name = "Restriction" then some .phrase else none
  | .phrase, _ => none

/-- What counts of the text in an element. -/
def Part.counted : Part → String → String
  | .condition, text => strip text
  | .phrase, text => strip text
  | _, _ => ""

mutual

/-- An element without attributes, without text after it or blanks around its text, and without
children that have no meaning; the text of an element that holds others does not count. -/
def essence (part : Part) : Element → Element
  | .node tag _ text children _ => .node tag [] (part.counted text) (essences part children) ""

/-- The children of an element that have a meaning, in their essence. -/
def essences (part : Part) : List Element → List Element
  | [] => []
  | child :: rest =>
    match part.inner? child.tag with
    | none => essences part rest
    | some inner => essence inner child :: essences part rest

end

@[simp]
theorem tag_essence (part : Part) (e : Element) : (essence part e).tag = e.tag := by
  cases e
  simp [essence, Element.tag]

@[simp]
theorem text_essence (part : Part) (e : Element) :
    (essence part e).text = part.counted e.text := by
  cases e
  simp [essence, Element.text]

theorem children_essence (part : Part) (e : Element) :
    (essence part e).children = essences part e.children := by
  cases e
  simp [essence, Element.children]

/-- Children that are looked for by their names are found in the essence, each in its essence. -/
theorem filter_essences {part inner : Part} (test : String → Bool)
    (hinner : ∀ name, test name = true → part.inner? name = some inner) (es : List Element) :
    (essences part es).filter (fun e => test e.tag) =
      (es.filter fun e => test e.tag).map (essence inner) := by
  induction es with
  | nil => rfl
  | cons e rest ih =>
      rw [essences]
      by_cases htest : test e.tag = true
      · rw [hinner _ htest]
        simp [htest, ih]
      · -- the element is passed over, whether it has another meaning or none
        cases part.inner? e.tag <;> simp [htest, ih]

theorem childrenNamed_essence {part inner : Part} {name : String}
    (hinner : part.inner? name = some inner) (e : Element) :
    (essence part e).childrenNamed name = (e.childrenNamed name).map (essence inner) := by
  unfold Element.childrenNamed
  rw [children_essence]
  refine filter_essences (· == name) (fun other hother => ?_) e.children
  rwa [beq_iff_eq.1 hother]

theorem child?_essence {part inner : Part} {name : String}
    (hinner : part.inner? name = some inner) (e : Element) :
    (essence part e).child? name = (e.child? name).map (essence inner) := by
  have hfirst : ∀ e : Element, e.child? name = (e.childrenNamed name).head? :=
    fun e => List.head?_filter.symm
  rw [hfirst, hfirst, childrenNamed_essence hinner, List.head?_map]

theorem textOf_essence {part : Part} {name : String}
    (hinner : part.inner? name = some .phrase) (e : Element) :
    textOf (essence part e) name = textOf e name := by
  unfold textOf
  rw [child?_essence hinner]
  cases e.child? name with
  | none => rfl
  | some child => simp [Part.counted, strip_strip]

theorem restrictionsOf_essence (rule : Element) :
    restrictionsOf (essence .rule rule) = restrictionsOf rule := by
  have htext : squeeze ∘ Element.text ∘ essence .phrase = squeeze ∘ Element.text := by
    funext e
    simp [Part.counted, squeeze_strip]
  unfold restrictionsOf
  rw [child?_essence (show Part.rule.inner? "Condition" = some .condition by simp [Part.inner?])]
  cases rule.child? "Condition" with
  | none => rfl
  | some condition =>
      dsimp only [Option.map_some]
      have hinner : Part.condition.inner? "Restriction" = some .phrase := by simp [Part.inner?]
      rw [childrenNamed_essence hinner]
      -- the parts of a condition count, or its text if there are none
      cases condition.childrenNamed "Restriction" with
      | nil => simp [Part.counted, squeeze_strip]
      | cons part rest =>
          show ((((part :: rest).map (essence .phrase)).map Element.text).map squeeze).filter _ = _
          rw [List.map_map, List.map_map, Function.comp_assoc, htext, ← List.map_map]
          rfl

theorem ruleOf_essence (rule : Element) : ruleOf (essence .rule rule) = ruleOf rule := by
  unfold ruleOf
  rw [restrictionsOf_essence]
  simp [textOf_essence, Part.inner?]

theorem controllersOf_essence (m : Element) :
    controllersOf (essence .group m) = (controllersOf m).map (essence .controller) := by
  unfold controllersOf
  rw [children_essence]
  refine filter_essences (fun name => startsWith name "Controller") (fun name h => ?_) _
  -- a controller is not taken for the name of its module
  have hname : name ≠ "Name" := by
    rintro rfl
    exact absurd h (by decide)
  simp [Part.inner?, hname, h]

theorem moduleOf_essence (m : Element) : moduleOf (essence .group m) = moduleOf m := by
  have hname : textOf (essence .group m) "Name" = textOf m "Name" :=
    textOf_essence (by simp [Part.inner?]) m
  have hrules : (moduleOf (essence .group m)).rules = (moduleOf m).rules := by
    have hrule : ruleOf ∘ essence .rule = ruleOf := funext ruleOf_essence
    have hnamed : ∀ controller, (essence .controller controller).childrenNamed "Rule" =
        (controller.childrenNamed "Rule").map (essence .rule) :=
      childrenNamed_essence (by simp [Part.inner?])
    rw [rules_moduleOf, rules_moduleOf, controllersOf_essence, List.flatMap_map]
    simp only [hnamed, List.map_flatMap, List.map_map, hrule]
  calc moduleOf (essence .group m)
      = ⟨textOf (essence .group m) "Name", (moduleOf (essence .group m)).rules⟩ := rfl
    _ = moduleOf m := by rw [hname, hrules]; rfl

theorem modulesOf_essence (root : Element) :
    modulesOf (essence .policies root) = modulesOf root := by
  have hmodule : moduleOf ∘ essence .group = moduleOf := funext moduleOf_essence
  have hinner : Part.policies.inner? moduleName = some .group := by simp [Part.inner?]
  unfold modulesOf
  rw [tag_essence, childrenNamed_essence hinner]
  simp only [List.isEmpty_map, List.length_map, List.map_map, hmodule]

/-! ## The rules of a tree -/

/-- **The permissions and the log of a policy are what its rule elements give.** Each rule element
gives one permission or one warning, in document order; no condition has a blank in it; trees with
one essence have the same permissions and the same log; and a document has those of its tree. -/
theorem rulesIn_exact (root : Element) (htag : root.tag = rootName) :
    (∃ outcomes,
      List.Forall₂ (fun (m, rule) outcome => Gives m rule outcome) (ruleElements root) outcomes ∧
      (rulesIn root).value = outcomes.filterMap Sum.getRight? ∧
      (rulesIn root).log = opening root :: outcomes.filterMap Sum.getLeft?) ∧
    (∀ p ∈ (rulesIn root).value, ∀ c ∈ p.condition.toList, isBlank c = false) ∧
    (∀ other, essence .policies other = essence .policies root → rulesIn other = rulesIn root) ∧
    ∀ document, document.root = .ok root →
      (declaredRules document).run = ⟨(rulesIn root).log, .ok (rulesIn root).value⟩ := by
  have heq := rulesIn_of_tag htag
  have houtcomes : List.Forall₂ (fun (m, rule) outcome => Gives m rule outcome)
      (ruleElements root) ((ruleElements root).map fun (m, rule) => outcomeOf m rule) := by
    rw [List.forall₂_map_right_iff, List.forall₂_same]
    rintro ⟨m, rule⟩ -
    exact gives_outcomeOf m rule
  refine ⟨⟨_, houtcomes, by rw [heq], by rw [heq]⟩, ?_, ?_, ?_⟩
  · intro p hp c hc
    rw [heq] at hp
    obtain ⟨outcome, houtcome, hright⟩ := List.mem_filterMap.1 hp
    obtain ⟨⟨m, rule⟩, -, rfl⟩ := List.mem_map.1 houtcome
    dsimp only [outcomeOf] at hright
    split at hright
    · cases hright
      exact isBlank_of_mem_conditionOf hc
    · cases hright
  · intro other hother
    unfold rulesIn
    rw [← modulesOf_essence, hother, modulesOf_essence]
  · intro document hroot
    unfold declaredRules declaredBy
    rw [hroot]
    -- lifting a traced value leaves an empty list of records behind it
    show Traced.mk ((rulesIn root).log ++ []) _ = _
    rw [List.append_nil]
    rfl

/-- A tree with one complete rule, one without a role, and much that must not be seen. -/
def noisyRoot : Element :=
  .node "Policys" [("version", "2")] "note" [
    .node "Owner" [] "" [] "",
    .node "Module" [("kind", "a")] "" [
      .node "Name" [] " bank " [] "",
      .node "Controller1" [] "x" [
        .node "Rule" [("id", "7")] "" [
          .node "Role" [] "TELLER" [.node "b" [] "" [] "y"] "",
          .node "Role" [] "ADMIN" [] "",
          .node "Action" [] " GET" [] "",
          .node "Resource" [] "account" [] "z",
          .node "Condition" [] "w" [
            .node "Restriction" [] " a == b " [] "",
            .node "Restriction" [] " " [] "",
            .node "Restriction" [] "c" [] ""] ""] "",
        .node "Rule" [] "" [
          .node "RuleId" [] "8" [] "",
          .node "Action" [] "GET" [] "",
          .node "Resource" [] "account" [] ""] "w"] "",
      .node "Rule" [] "" [.node "Role" [] "R" [] ""] ""] "tail"] ""

/-- The same tree with nothing in it that must not be seen. -/
def plainRoot : Element :=
  .node "Policys" [] "" [
    .node "Module" [] "" [
      .node "Name" [] "bank" [] "",
      .node "Controller1" [] "" [
        .node "Rule" [] "" [
          .node "Role" [] "TELLER" [] "",
          .node "Role" [] "ADMIN" [] "",
          .node "Action" [] "GET" [] "",
          .node "Resource" [] "account" [] "",
          .node "Condition" [] "w" [
            .node "Restriction" [] "a == b" [] "",
            .node "Restriction" [] "" [] "",
            .node "Restriction" [] "c" [] ""] ""] "",
        .node "Rule" [] "" [
          .node "RuleId" [] "8" [] "",
          .node "Action" [] "GET" [] "",
          .node "Resource" [] "account" [] ""] ""] ""] ""] ""

theorem rulesIn_exact_noisyRoot :
    noisyRoot.tag = rootName ∧
    (rulesIn noisyRoot).value = [⟨"TELLER", "GET", "account", "a==b&&c"⟩] ∧
    (rulesIn noisyRoot).log = [⟨.debug, .policy, "[POLICY] Parsed 1 modules"⟩,
      ⟨.warning, .policy, "[POLICY] Skipping rule 8 in module bank: missing role"⟩] ∧
    rulesIn plainRoot = rulesIn noisyRoot := by
  have hessence : essence .policies plainRoot = essence .policies noisyRoot := rfl
  exact ⟨rfl, by decide +kernel, by decide +kernel,
    (rulesIn_exact noisyRoot rfl).2.2.1 plainRoot hessence⟩

end Policy
end RoleAudit
