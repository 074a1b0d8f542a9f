/-!
# First items

An item of a list is the first one of a kind if all that stand before it are of another kind.

- `FirstOf`: an item is the first one of a kind;
- `firstOf_iff_find?`: a search finds it, and finds nothing else;
- `firstOf_filterMap_iff`: the first one of what is read from the items of a list;
- `findSome?_eq_some_iff_firstOf`: what is read first is read from the first item that gives anything.
-/

namespace RoleAudit

variable {α β : Type}

/-- An item is the first one of a kind in a list. -/
inductive FirstOf (kind : α → Prop) (a : α) : List α → Prop where
  | here {rest : List α} (ha : kind a) : FirstOf kind a (a :: rest)
  | later {b : α} {rest : List α} (hb : ¬ kind b) (h : FirstOf kind a rest) :
      FirstOf kind a (b :: rest)

/-- The first item of a kind is of it. -/
theorem FirstOf.holds {kind : α → Prop} {a : α} {items : List α} (h : FirstOf kind a items) :
    kind a := by
  induction h with
  | here ha => exact ha
  | later _ _ ih => exact ih

theorem FirstOf.mem {kind : α → Prop} {a : α} {items : List α} (h : FirstOf kind a items) :
    a ∈ items := by
  induction h with
  | here _ => exact List.mem_cons_self
  | later _ _ ih => exact List.mem_cons_of_mem _ ih

/-- A search finds the first item that passes its test. -/
theorem firstOf_iff_find? {test : α → Bool} {a : α} {items : List α} :
    FirstOf (fun a => test a = true) a items ↔ items.find? test = some a := by
  induction items with
  | nil => exact ⟨nofun, nofun⟩
  | cons b rest ih =>
      rw [List.find?_cons]
      cases hb : test b with
      -- a first item that passes is the one that is found
      | true =>
          constructor
          · intro h
            cases h with
            | here _ => rfl
            | later hnot _ => exact absurd hb hnot
          · rintro h
            cases h
            exact .here hb
      | false =>
          rw [← ih]
          constructor
          · intro h
            cases h with
            | here ha => rw [hb] at ha; cases ha
            | later _ h => exact h
          · exact .later (by simp [hb])

/-- The first one of what is read from items is read from the first item that gives such a one. -/
theorem firstOf_filterMap_iff {kind : β → Prop} {read : α → Option β} {b : β} {items : List α} :
    FirstOf kind b (items.filterMap read) ↔
      ∃ a, FirstOf (fun a => ∃ b, read a = some b ∧ kind b) a items ∧ read a = some b := by
  induction items with
  | nil => exact ⟨nofun, nofun⟩
  | cons c rest ih =>
      cases hc : read c with
      | none =>
          -- nothing is read from `c`, so that it is of no kind
          have hnot : ¬ ∃ b, read c = some b ∧ kind b := by
            rintro ⟨b, hb, -⟩
            rw [hc] at hb
            cases hb
          rw [List.filterMap_cons_none hc, ih]
          constructor
          · rintro ⟨a, ha, hread⟩
            exact ⟨a, .later hnot ha, hread⟩
          · rintro ⟨a, ha, hread⟩
            cases ha with
            | here ha => exact absurd ha hnot
            | later _ ha => exact ⟨a, ha, hread⟩
      | some d =>
          rw [List.filterMap_cons_some hc]
          constructor
          · intro h
            cases h with
            | here hb => exact ⟨c, .here ⟨b, hc, hb⟩, hc⟩
            | later hd h =>
                obtain ⟨a, ha, hread⟩ := ih.1 h
                refine ⟨a, .later ?_ ha, hread⟩
                rintro ⟨d', hd', hkind⟩
                rw [hc] at hd'
                exact hd (Option.some.inj hd' ▸ hkind)
          · rintro ⟨a, ha, hread⟩
            cases ha with
            | here ha =>
                obtain ⟨d', hd', hkind⟩ := ha
                rw [hc] at hd' hread
                cases hd'
                cases hread
                exact .here hkind
            | later hnot ha => exact .later (fun hd => hnot ⟨d, hc, hd⟩) (ih.2 ⟨a, ha, hread⟩)

/-- What is read first is read from the first item that gives anything. -/
theorem findSome?_eq_some_iff_firstOf {read : α → Option β} {b : β} {items : List α} :
    items.findSome? read = some b ↔
      ∃ a, FirstOf (fun a => ∃ b, read a = some b) a items ∧ read a = some b := by
  rw [List.findSome?_eq_some_iff]
  constructor
  · rintro ⟨before, a, after, rfl, ha, hbefore⟩
    refine ⟨a, ?_, ha⟩
    -- induction on the items that give nothing
    induction before with
    | nil => exact .here ⟨b, ha⟩
    | cons c rest ih =>
        refine .later ?_ (ih fun d hd => hbefore d (List.mem_cons_of_mem c hd))
        rintro ⟨b', hb'⟩
        rw [hbefore c List.mem_cons_self] at hb'
        cases hb'
  · rintro ⟨a, hfirst, ha⟩
    induction hfirst with
    | @here rest _ => exact ⟨[], a, rest, rfl, ha, by simp⟩
    | @later c rest hc _ ih =>
        obtain ⟨before, a', after, hrest, ha', hbefore⟩ := ih
        refine ⟨c :: before, a', after, by rw [hrest]; rfl, ha', ?_⟩
        refine List.forall_mem_cons.2 ⟨?_, hbefore⟩
        exact Option.eq_none_iff_forall_ne_some.2 fun b' hb' => hc ⟨b', hb'⟩

end RoleAudit
