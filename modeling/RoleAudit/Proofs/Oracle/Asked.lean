import RoleAudit.Oracle.Static
import RoleAudit.Proofs.Tables

/-!
# Oracles answer what they are asked

The oracles of this library give values for names that they were asked about and for no other ones,
whatever they find in a source, are given beforehand, or are told by an assistant:

- `keys_readPairs`: a reply is read as values for exactly the expected names;
- `Oracle.Shipped`: the oracles of this library, with `shipped_ofKind`: a configuration chooses one;
- `Oracle.Shipped.asked`: a policy that has an answer was asked about.
-/

namespace RoleAudit

/-! ## Names that have a value -/

theorem mem_keys_iff_lookup {α : Type} {entries : List (String × α)} {key : String} :
    key ∈ entries.map (·.1) ↔ (entries.lookup key).isSome = true := by
  induction entries with
  | nil => simp
  | cons entry rest ih =>
      rcases entry with ⟨k, v⟩
      by_cases hk : key = k
      · simp [hk]
      · rw [List.lookup_cons, beq_false_of_ne hk, ← ih]
        simp [hk]

/-- A table has no keys but those of its entries. -/
theorem mem_keys_tableOf {α : Type} {entries : List (String × α)} {key : String} :
    key ∈ (tableOf entries).map (·.1) ↔ key ∈ entries.map (·.1) := by
  rw [mem_keys_iff_lookup, lookup_tableOf, ← mem_keys_iff_lookup, List.map_reverse,
    List.mem_reverse]

/-- A pair of a reply changes values only. -/
theorem keys_addPair (expected : List String) (known : List (String × String)) (pair : String) :
    (addPair expected known pair).map (·.1) = known.map (·.1) := by
  unfold addPair
  split
  · rfl
  · split
    · rfl
    · split
      · rfl
      · simp [keepFirst, Function.comp_def]

/-- A reply is read as values for the expected names, each once. -/
theorem keys_readPairs (reply : String) (expected : List String) :
    (readPairs reply expected).map (·.1) = Text.distinct expected := by
  have hfrom : ∀ (pairs : List String) (known : List (String × String)),
      (pairs.foldl (addPair expected) known).map (·.1) = known.map (·.1) := by
    intro pairs
    induction pairs with
    | nil => exact fun _ => rfl
    | cons pair rest ih =>
        intro known
        exact (ih (addPair expected known pair)).trans (keys_addPair expected known pair)
  calc
    (readPairs reply expected).map (·.1)
        = ((Text.distinct expected).map fun n => (n, "")).map (·.1) := hfrom _ _
    _ = Text.distinct expected := by simp [Function.comp_def]

/-! ## The oracles of this library -/

/-- An oracle of this library, with any given answers and any assistant. -/
inductive Oracle.Shipped : Oracle → Prop
  | reading : Shipped Oracle.reading
  | fixed (entities constraints : Answers) : Shipped (Oracle.fixed entities constraints)
  | asking (assistant : Assistant) (options : AskingOptions) :
      Shipped (Oracle.asking assistant options)

/-- Whatever a configuration says, its oracle is one of this library. -/
theorem Oracle.shipped_ofKind (kind : String) (assistant : Option Assistant)
    (options : AskingOptions) : (Oracle.ofKind kind assistant options).value.Shipped := by
  unfold Oracle.ofKind
  cases assistant with
  | none => exact Shipped.reading
  | some assistant =>
      dsimp only
      split
      · exact Shipped.asking assistant options
      · exact Shipped.reading

/-- An assistant that replies is read for the names that it was asked about. -/
theorem value_askAssistant (assistant : Assistant) (options : AskingOptions) (q : Question) :
    (askAssistant assistant options q).value =
      if q.names.isEmpty then .ok []
      else (assistant q.prompt options.maxTokens options.temperature).map fun reply =>
        readPairs (cleanReply reply) q.names := by
  unfold askAssistant
  split
  · rfl
  · cases assistant q.prompt options.maxTokens options.temperature <;> rfl

/-- A policy that is answered was asked about. -/
theorem Oracle.Shipped.asked {o : Oracle} (h : o.Shipped) {policies : List String}
    {uses : List (String × String)} {source : String} {answers : Answers}
    (hanswers : (o.constraints policies uses source).value = .ok answers) {policy : String}
    (hpolicy : policy ∈ answers.map (·.1)) : policy ∈ policies := by
  cases h with
  | reading =>
      cases hanswers
      simpa [constraintsRead, mem_keys_tableOf] using hpolicy
  | fixed entities constraints =>
      cases hanswers
      rw [knownFor, mem_keys_tableOf] at hpolicy
      simp only [List.mem_map, List.mem_filterMap, Option.map_eq_some_iff] at hpolicy
      rcases hpolicy with ⟨_, ⟨name, hname, value, -, rfl⟩, rfl⟩
      exact hname
  | asking assistant options =>
      have hreply : (askAssistant assistant options (.constraints policies source)).value =
          .ok answers := hanswers
      rw [value_askAssistant] at hreply
      split at hreply
      · -- nobody is asked about nothing
        rw [← Except.ok.inj hreply] at hpolicy
        cases hpolicy
      · cases hassistant : assistant (Question.constraints policies source).prompt
            options.maxTokens options.temperature with
        | error e => simp [hassistant, Except.map] at hreply
        | ok reply =>
            rw [hassistant] at hreply
            rwa [← Except.ok.inj hreply, keys_readPairs, Text.mem_distinct] at hpolicy

end RoleAudit
