import RoleAudit.Oracle.Static
import RoleAudit.Proofs.Assembly
import RoleAudit.Proofs.Text.Distinct
import RoleAudit.Resolution.Resolver

/-!
# Tables

A table gives each key one value. What is looked up in it after entries were put in:

- `lookup_setEntry`, `keys_setEntry`: one entry gives its key a value, and adds the key if it is
  new;
- `lookup_tableOf`, `lookup_foldl_addMissing`: of several entries of a key the last one counts, or
  the first one if entries are added only where none is;
- `importedFrom?`, `lookup_serviceImports`: a service has the path that it is imported from;
- `policiesFrom`, `mem_policyGroups`: each path that policies are imported from has one group, with
  all of them in order;
- `keys_policyGroups`, `flatMap_policyGroups_perm`: the groups stand in the order in which their paths
  appear, and hold each policy as often as it is imported.
-/

namespace RoleAudit

variable {α : Type}

/-! ## Entries -/

theorem lookup_setEntry (key : String) (value : α) (table : List (String × α)) (k : String) :
    (setEntry key value table).lookup k = if k = key then some value else table.lookup k := by
  induction table with
  | nil =>
      by_cases hk : k = key
      · simp [setEntry, hk]
      · simp [setEntry, hk, List.lookup_cons, beq_false_of_ne hk]
  | cons entry rest ih =>
      rcases entry with ⟨k', v⟩
      unfold setEntry
      by_cases hkey : k' = key
      · -- the value of the entry that is there is replaced
        subst hkey
        rw [if_pos (by simp), List.lookup_cons, List.lookup_cons]
        by_cases hk : k = k'
        · simp [hk]
        · simp [hk, beq_false_of_ne hk]
      · rw [if_neg (by simpa using hkey), List.lookup_cons, List.lookup_cons, ih]
        by_cases hk : k = k'
        · subst hk
          simp [hkey]
        · simp [beq_false_of_ne hk]

theorem keys_setEntry (key : String) (value : α) (table : List (String × α)) :
    (setEntry key value table).map (·.1) =
      if key ∈ table.map (·.1) then table.map (·.1) else table.map (·.1) ++ [key] := by
  induction table with
  | nil => rfl
  | cons entry rest ih =>
      rcases entry with ⟨k, v⟩
      unfold setEntry
      by_cases hk : k = key
      · simp [hk]
      · have hk' : ¬ key = k := fun h => hk h.symm
        rw [if_neg (by simpa using hk), List.map_cons, List.map_cons, ih]
        by_cases hmem : key ∈ rest.map (·.1)
        · rw [if_pos hmem, if_pos (List.mem_cons_of_mem k hmem)]
        · have hnew : key ∉ k :: rest.map (·.1) := fun h => (List.mem_cons.1 h).elim hk' hmem
          rw [if_neg hmem, if_neg hnew, List.cons_append]

/-- With distinct keys each entry is the one that is looked up. -/
theorem lookup_eq_some_iff_mem {κ : Type} [BEq κ] [LawfulBEq κ] {table : List (κ × α)}
    (h : (table.map (·.1)).Nodup) {key : κ} {value : α} :
    table.lookup key = some value ↔ (key, value) ∈ table := by
  constructor
  · exact mem_of_lookup
  · intro hmem
    rcases List.append_of_mem hmem with ⟨before, after, hentries⟩
    refine List.lookup_eq_some_iff.2 ⟨before, after, hentries, fun entry hentry => ?_⟩
    -- an entry before it has another key
    rw [hentries, List.map_append, List.map_cons] at h
    have hapart := (List.nodup_append.1 h).2.2
    have hkey : entry.1 ≠ key :=
      hapart entry.1 (List.mem_map_of_mem hentry) key List.mem_cons_self
    simpa using hkey.symm

/-- Of several entries of a key the last one counts. -/
theorem lookup_tableOf (entries : List (String × α)) (k : String) :
    (tableOf entries).lookup k = entries.reverse.lookup k := by
  -- what was in the table before counts for the keys that no entry has
  have hfrom : ∀ table : List (String × α),
      (entries.foldl (fun table entry => setEntry entry.1 entry.2 table) table).lookup k =
        (entries.reverse.lookup k).or (table.lookup k) := by
    induction entries with
    | nil =>
        intro table
        rfl
    | cons entry rest ih =>
        intro table
        rcases entry with ⟨key, value⟩
        rw [List.foldl_cons, ih, lookup_setEntry, List.reverse_cons, List.lookup_append,
          Option.or_assoc]
        by_cases hk : k = key
        · simp [hk]
        · simp [hk, List.lookup_cons, beq_false_of_ne hk]
  have hall := hfrom []
  rwa [List.lookup_nil, Option.or_none] at hall

/-- A table that is made of values for names. -/
theorem lookup_tableOf_map (value : String → α) {names : List String} {n : String}
    (h : n ∈ names) : (tableOf (names.map fun m => (m, value m))).lookup n = some (value n) := by
  have hfound : names.reverse.find? (· == n) = some n := by
    cases hfind : names.reverse.find? (· == n) with
    | none => exact absurd (List.find?_eq_none.1 hfind n (List.mem_reverse.2 h)) (by simp)
    | some m =>
        have hm : m = n := by simpa using List.find?_some hfind
        rw [hm]
  rw [lookup_tableOf, ← List.map_reverse, lookup_map, hfound, Option.map_some]

/-- If entries are added only where none is, those that are there count, and then the first ones. -/
theorem lookup_foldl_addMissing (entries known : List (String × α)) (k : String) :
    (entries.foldl addMissing known).lookup k = (known.lookup k).or (entries.lookup k) := by
  induction entries generalizing known with
  | nil => simp
  | cons entry rest ih =>
      rcases entry with ⟨key, value⟩
      rw [List.foldl_cons, ih, List.lookup_cons]
      unfold addMissing
      by_cases hk : k = key
      · subst hk
        cases hknown : known.lookup k with
        | some v => simp [hknown]
        | none => simp [hknown, List.lookup_append]
      · rw [beq_false_of_ne hk]
        split
        · rfl
        · simp [List.lookup_append, List.lookup_cons, beq_false_of_ne hk]

/-! ## Services -/

/-- The policies that are imported from a path, in order. -/
def policiesFrom (imports : List ImportedName) (path : String) : List String :=
  (imports.filter fun i => Text.occursIn i.name "Policy" && i.path == path).map (·.name)

theorem lookup_addToGroup (groups : List (String × List String)) (i : ImportedName)
    (path : String) :
    (addToGroup groups i).lookup path =
      if path = i.path then some ((groups.lookup path).getD [] ++ [i.name])
      else groups.lookup path := by
  unfold addToGroup
  rw [lookup_setEntry]
  by_cases hpath : path = i.path
  · rw [if_pos hpath, if_pos hpath, hpath]
  · rw [if_neg hpath, if_neg hpath]

/-- A path has a group if a policy is imported from it, and then with all of these policies. -/
theorem lookup_policyGroups (imports : List ImportedName) (path : String) :
    (policyGroups imports).lookup path =
      if policiesFrom imports path = [] then none else some (policiesFrom imports path) := by
  -- the names that a group has already stand before those that are added
  have hfrom : ∀ (items : List ImportedName) (groups : List (String × List String)),
      (items.foldl addToGroup groups).lookup path =
        if (items.filter fun i => i.path == path) = [] then groups.lookup path
        else some ((groups.lookup path).getD [] ++
          (items.filter fun i => i.path == path).map (·.name)) := by
    intro items
    induction items with
    | nil =>
        intro groups
        rfl
    | cons i rest ih =>
        intro groups
        rw [List.foldl_cons, ih, lookup_addToGroup, List.filter_cons]
        by_cases hpath : path = i.path
        · subst hpath
          by_cases hnone : (rest.filter fun j => j.path == i.path) = [] <;> simp [hnone]
        · have hbeq : (i.path == path) = false := beq_false_of_ne fun h => hpath h.symm
          simp [hpath, hbeq]
  have hpolicies : policiesFrom imports path =
      (((imports.filter fun i => Text.occursIn i.name "Policy").filter
        fun i => i.path == path).map (·.name)) := by
    rw [policiesFrom, List.filter_filter]
    simp only [Bool.and_comm]
  rw [policyGroups, hfrom, hpolicies]
  simp

/-- The imports of policies. -/
def policyImports (imports : List ImportedName) : List ImportedName :=
  imports.filter fun i => Text.occursIn i.name "Policy"

/-- The groups are those of the paths of these imports, in the order of their first appearance. -/
theorem keys_policyGroups (imports : List ImportedName) :
    (policyGroups imports).map (·.1) = Text.distinct ((policyImports imports).map (·.path)) := by
  -- an import adds its path behind the others unless it is there
  have hfrom : ∀ (items : List ImportedName) (groups : List (String × List String)),
      (items.foldl addToGroup groups).map (·.1) = (items.map (·.path)).foldl
        (fun done s => if done.contains s then done else done ++ [s]) (groups.map (·.1)) := by
    intro items
    induction items with
    | nil =>
        intro groups
        rfl
    | cons i rest ih =>
        intro groups
        rw [List.foldl_cons, ih, List.map_cons, List.foldl_cons, addToGroup, keys_setEntry]
        by_cases hpath : i.path ∈ groups.map (·.1) <;> simp [hpath]
  exact hfrom (policyImports imports) []

theorem nodup_keys_policyGroups (imports : List ImportedName) :
    ((policyGroups imports).map (·.1)).Nodup := by
  rw [keys_policyGroups]
  exact Text.nodup_distinct _

/-- An import adds its name to one group and changes no other one. -/
theorem flatMap_addToGroup_perm (groups : List (String × List String)) (i : ImportedName) :
    ((addToGroup groups i).flatMap (·.2)).Perm (i.name :: groups.flatMap (·.2)) := by
  unfold addToGroup
  induction groups with
  | nil => exact List.Perm.refl _
  | cons group rest ih =>
      rcases group with ⟨path, names⟩
      unfold setEntry
      by_cases hpath : path = i.path
      · subst hpath
        have hlookup : ((i.path, names) :: rest).lookup i.path = some names := by simp
        rw [if_pos (beq_self_eq_true _), hlookup, Option.getD_some, List.flatMap_cons,
          List.flatMap_cons, List.append_assoc, List.singleton_append]
        -- the name goes to the end of the first group with this path
        exact List.perm_middle
      · have hother : ((path, names) :: rest).lookup i.path = rest.lookup i.path := by
          rw [List.lookup_cons, beq_false_of_ne fun h => hpath h.symm]
        rw [if_neg (by simpa using hpath), hother, List.flatMap_cons, List.flatMap_cons]
        exact (ih.append_left names).trans List.perm_middle

/-- The groups together hold the imported policies, each as often as it is imported. -/
theorem flatMap_policyGroups_perm (imports : List ImportedName) :
    ((policyGroups imports).flatMap (·.2)).Perm ((policyImports imports).map (·.name)) := by
  have hfrom : ∀ (items : List ImportedName) (groups : List (String × List String)),
      ((items.foldl addToGroup groups).flatMap (·.2)).Perm
        (items.map (·.name) ++ groups.flatMap (·.2)) := by
    intro items
    induction items with
    | nil =>
        intro groups
        exact List.Perm.refl _
    | cons i rest ih =>
        intro groups
        have hfirst := (flatMap_addToGroup_perm groups i).append_left (rest.map (·.name))
        exact ((ih (addToGroup groups i)).trans hfirst).trans List.perm_middle
  have hall := hfrom (policyImports imports) []
  rwa [List.flatMap_nil, List.append_nil] at hall

/-- The groups are the paths that policies are imported from, each with all of them. -/
theorem mem_policyGroups {imports : List ImportedName} {path : String} {names : List String} :
    (path, names) ∈ policyGroups imports ↔
      names = policiesFrom imports path ∧ policiesFrom imports path ≠ [] := by
  rw [← lookup_eq_some_iff_mem (nodup_keys_policyGroups imports), lookup_policyGroups]
  by_cases hnone : policiesFrom imports path = []
  · simp [hnone]
  · simp [hnone, eq_comm]

end RoleAudit
