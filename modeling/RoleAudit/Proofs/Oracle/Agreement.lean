import RoleAudit.Oracle.Static
import RoleAudit.Proofs.Oracle.Reply

/-!
# When two oracles agree

An assistant that is asked for conditions may reply with exactly what the source says, in exactly the
form that is asked for. Its reply is still read as words, so that not every condition arrives.

- `tableOf_of_nodup`: what the source says of distinct policies, policy by policy;
- `ReadsBack`: a condition that arrives as it was written;
- `readAs_eq_iff`: when a name is read with the value that was replied;
- `asking_eq_reading_iff`: when asking and reading give the same conditions.
-/

namespace RoleAudit

open RoleAudit.Text

/-! ## Reading the source -/

theorem setEntry_of_not_mem {α : Type} {table : List (String × α)} {key : String} (value : α)
    (h : key ∉ table.map (·.1)) : setEntry key value table = table ++ [(key, value)] := by
  induction table with
  | nil => rfl
  | cons entry rest ih =>
      rcases entry with ⟨k, v⟩
      have hk : k ≠ key := by
        rintro rfl
        exact h List.mem_cons_self
      have hrest := ih fun hmem => h (List.mem_cons_of_mem k hmem)
      simp [setEntry, hk, hrest]

/-- Entries with distinct keys are a table as they are. -/
theorem tableOf_of_nodup {α : Type} {entries : List (String × α)}
    (h : (entries.map (·.1)).Nodup) : tableOf entries = entries := by
  -- a key that is not in the table yet goes to its end
  have hfrom : ∀ table : List (String × α), (∀ key ∈ entries.map (·.1), key ∉ table.map (·.1)) →
      entries.foldl (fun table entry => setEntry entry.1 entry.2 table) table =
        table ++ entries := by
    induction entries with
    | nil => simp
    | cons entry rest ih =>
        intro table htable
        rcases entry with ⟨key, value⟩
        have hkey := htable key List.mem_cons_self
        rw [List.foldl_cons]
        dsimp only
        rw [setEntry_of_not_mem value hkey, ih (List.nodup_cons.1 h).2]
        · simp
        · intro k hk hmem
          rw [List.map_append, List.mem_append] at hmem
          rcases hmem with hmem | hmem
          · exact htable k (List.mem_cons_of_mem key hk) hmem
          · have heq : k = key := by simpa using hmem
            exact (List.nodup_cons.1 h).1 (heq ▸ hk)
  exact hfrom [] (by simp)

/-- The source is read for each of distinct policies. -/
theorem keys_constraintsRead {policies : List String} (source : String) (h : policies.Nodup) :
    (constraintsRead policies source).map (·.1) = policies := by
  have hkeys : ∀ value : String → String,
      (policies.map fun p => (p, value p)).map (·.1) = policies := by
    intro value
    simp [Function.comp_def]
  unfold constraintsRead
  dsimp only
  rw [tableOf_of_nodup, hkeys]
  rwa [hkeys]

/-! ## Conditions that arrive -/

/-- A condition that is read as it was written. -/
structure ReadsBack (condition : String) : Prop where
  /-- It is not cut. -/
  unbroken : Unbroken condition
  /-- Nothing is trimmed at its ends. -/
  bareOfBlanks : BareOf isBlank condition.toList
  bareOfQuotes : BareOf isReplyQuote condition.toList
  /-- It is none of the words that mean that there is no condition. -/
  meant : isEmptyAnswer condition = false

/-- Reading keeps a value that has neither blanks nor quotes at its ends, and only such a value. -/
theorem unquoted_eq_self_iff (value : String) :
    unquoted value = value ↔
      BareOf isBlank value.toList ∧ BareOf isReplyQuote value.toList := by
  have hlist : unquoted value = value ↔
      trim (trimOf isReplyQuote (trim value.toList)) = value.toList := by
    unfold unquoted
    rw [← String.toList_inj, String.toList_ofList]
  rw [hlist, ← trimOf_eq_self_iff, ← trimOf_eq_self_iff]
  constructor
  · intro h
    -- three cuts together drop nothing, so that none of them does
    have hlast := (trimOf_sublist isBlank (trimOf isReplyQuote (trim value.toList))).length_le
    have hmiddle := (trimOf_sublist isReplyQuote (trim value.toList)).length_le
    have hfull : trim (trimOf isReplyQuote (trim value.toList)) = value.toList := h
    have hlength := congrArg List.length hfull
    unfold trim at hlast hmiddle hlength
    have hfirst : trimOf isBlank value.toList = value.toList :=
      (trimOf_sublist isBlank _).eq_of_length_le (by omega)
    refine ⟨hfirst, (trimOf_sublist isReplyQuote _).eq_of_length_le ?_⟩
    rw [hfirst] at hlast hlength
    omega
  · rintro ⟨hblanks, hquotes⟩
    have htrim : trim value.toList = value.toList := hblanks
    rw [htrim, hquotes, htrim]

/-- A name is read with its value if there is none, or if the name is a word and the value arrives. -/
theorem readAs_eq_iff {name value : String} (h : Unbroken value) :
    readAs name value = value ↔ value = "" ∨ (IsWordName name ∧ ReadsBack value) := by
  unfold readAs
  constructor
  · intro hread
    split at hread
    · rename_i hgiven
      rcases (unquoted_eq_self_iff value).1 hread with ⟨hblanks, hquotes⟩
      exact Or.inr ⟨hgiven.1, h, hblanks, hquotes, hread ▸ hgiven.2⟩
    · exact Or.inl hread.symm
  · rintro (rfl | ⟨hword, hback⟩)
    · have hempty : isEmptyAnswer (unquoted "") = true := by decide
      simp [hempty]
    · have hkept : unquoted value = value :=
        (unquoted_eq_self_iff value).2 ⟨hback.bareOfBlanks, hback.bareOfQuotes⟩
      rw [hkept, if_pos ⟨hword, hback.meant⟩]

/-! ## Both oracles -/

/-- What is given for policies by an assistant that replies. -/
theorem value_asking (assistant : Assistant) (options : AskingOptions)
    (uses : List (String × String)) {policies : List String} {source reply : String}
    (hreply : assistant (Question.constraints policies source).prompt options.maxTokens
      options.temperature = .ok reply) :
    ((Oracle.asking assistant options).constraints policies uses source).value =
      .ok (readPairs (cleanReply reply) policies) := by
  have hasking : (Oracle.asking assistant options).constraints policies uses source =
      askAssistant assistant options (.constraints policies source) := rfl
  rw [hasking]
  unfold askAssistant
  by_cases hnone : (Question.constraints policies source).names.isEmpty = true
  · -- nobody is asked, and nothing would be read
    have hempty : policies = [] := by simpa [Question.names] using hnone
    rw [if_pos hnone, hempty, readPairs_nil]
    rfl
  · rw [if_neg hnone, hreply]
    rfl

/--
If an assistant replies to a question about the conditions of distinct policies in the form that is
asked for, with what the source says of each, then asking it gives what reading the source gives
exactly if every policy has no condition, or is named by a word and has a condition that arrives.
-/
theorem asking_eq_reading_iff (assistant : Assistant) (options : AskingOptions)
    (policies : List String) (uses : List (String × String)) (source : String)
    (hdistinct : policies.Nodup) (hwritten : ∀ p ∈ policies, IsWritten p)
    (hreply : assistant (Question.constraints policies source).prompt options.maxTokens
      options.temperature = .ok (formReply (constraintsRead policies source))) :
    ((Oracle.asking assistant options).constraints policies uses source).value =
        (Oracle.reading.constraints policies uses source).value ↔
      ∀ entry ∈ constraintsRead policies source,
        entry.2 = "" ∨ (IsWordName entry.1 ∧ ReadsBack entry.2) := by
  have hkeys := keys_constraintsRead source hdistinct
  have hreading : (Oracle.reading.constraints policies uses source).value =
      .ok (constraintsRead policies source) := rfl
  rw [hreading, value_asking assistant options uses hreply, Except.ok.injEq]
  generalize constraintsRead policies source = answers at hkeys ⊢
  have hnames : ∀ entry ∈ answers, IsWritten entry.1 := by
    intro entry hentry
    exact hwritten entry.1 (hkeys ▸ List.mem_map.2 ⟨entry, hentry, rfl⟩)
  -- reading keeps all entries if it keeps each of them
  have hself : ∀ read : String → String → String,
      (answers.map fun entry => (entry.1, read entry.1 entry.2)) = answers ↔
        ∀ entry ∈ answers, read entry.1 entry.2 = entry.2 := by
    intro read
    conv_lhs => rhs; rw [← List.map_id answers]
    rw [List.map_inj_left]
    simp [Prod.ext_iff]
  constructor
  · intro hsame
    -- what is read is not broken, so that the conditions of the source are not
    have hunbroken : ∀ entry ∈ answers, Unbroken entry.2 := by
      intro entry hentry
      exact unbroken_of_mem_readPairs (hsame.symm ▸ hentry)
    have hread := readPairs_formReply (hkeys ▸ hdistinct) hnames hunbroken
    rw [hkeys, hsame] at hread
    intro entry hentry
    exact (readAs_eq_iff (hunbroken entry hentry)).1 ((hself readAs).1 hread.symm entry hentry)
  · intro hgood
    have hunbroken : ∀ entry ∈ answers, Unbroken entry.2 := by
      intro entry hentry
      rcases hgood entry hentry with hempty | ⟨-, hback⟩
      · intro c hc
        rw [hempty] at hc
        cases hc
      · exact hback.unbroken
    have hread := readPairs_formReply (hkeys ▸ hdistinct) hnames hunbroken
    rw [hkeys] at hread
    rw [hread]
    apply (hself readAs).2
    intro entry hentry
    exact (readAs_eq_iff (hunbroken entry hentry)).2 (hgood entry hentry)

/-- A policy with a condition that arrives. -/
def plainPolicy : String :=
  "class A extends P\x7bconstructor()\x7bsuper('a')\x7d\x7d"

/-- A policy with a condition that is a word for none. -/
def nonePolicy : String :=
  "class A extends P\x7bconstructor()\x7bsuper('none')\x7d\x7d"

/-- An assistant that always gives one reply. -/
def Assistant.replying (reply : String) : Assistant :=
  fun _ _ _ => .ok reply

theorem asking_eq_reading_iff_plainPolicy :
    ((Oracle.asking (Assistant.replying "A: a") .usual).constraints ["A"] [] plainPolicy).value =
      (Oracle.reading.constraints ["A"] [] plainPolicy).value := by
  have hanswers : constraintsRead ["A"] plainPolicy = [("A", "a")] := by decide +kernel
  apply (asking_eq_reading_iff (Assistant.replying "A: a") .usual ["A"] [] plainPolicy
    (by decide +kernel) (by decide +kernel) ?_).2
  · rw [hanswers]
    intro entry hentry
    rcases List.mem_singleton.1 hentry with rfl
    have hback : ReadsBack "a" :=
      ⟨by decide +kernel, trimOf_eq_self_iff.1 (by decide +kernel),
        trimOf_eq_self_iff.1 (by decide +kernel), by decide +kernel⟩
    exact Or.inr ⟨by decide +kernel, hback⟩
  · rw [hanswers]
    rfl

/-- A policy whose condition is written as the word for none is read without a condition. -/
theorem asking_ne_reading_nonePolicy :
    (Assistant.replying "A: none") (Question.constraints ["A"] nonePolicy).prompt
        AskingOptions.usual.maxTokens AskingOptions.usual.temperature =
      .ok (formReply (constraintsRead ["A"] nonePolicy)) ∧
    ((Oracle.asking (Assistant.replying "A: none") .usual).constraints ["A"] [] nonePolicy).value ≠
      (Oracle.reading.constraints ["A"] [] nonePolicy).value := by
  have hanswers : constraintsRead ["A"] nonePolicy = [("A", "none")] := by decide +kernel
  have hreply : (Assistant.replying "A: none") (Question.constraints ["A"] nonePolicy).prompt
      AskingOptions.usual.maxTokens AskingOptions.usual.temperature =
        .ok (formReply (constraintsRead ["A"] nonePolicy)) := by
    rw [hanswers]
    rfl
  refine ⟨hreply, ?_⟩
  have hread : readPairs (cleanReply (formReply [("A", "none")])) ["A"] = [("A", "")] := by decide
  have hreading : (Oracle.reading.constraints ["A"] [] nonePolicy).value =
      .ok (constraintsRead ["A"] nonePolicy) := rfl
  rw [value_asking _ _ _ hreply, hreading, hanswers, hread]
  intro hsame
  exact absurd (Except.ok.inj hsame) (by decide)

end RoleAudit
