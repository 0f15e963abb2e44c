import VectorStore.SortedMap

/-!
More laws of sorted maps: which entries a map has, and what overlaying and mapping do to look-ups.
-/
namespace VectorStore.SortedMap

variable {α β : Type}

theorem lookup_eq_some_iff {k : String} {v : α} :
    {es : List (String × α)} → es.Pairwise (fun a b => a.1 < b.1) →
      (lookup k es = some v ↔ (k, v) ∈ es)
  | [], _ => by simp [lookup]
  | (k', v') :: rest, sorted => by
    have below := List.pairwise_cons.mp sorted
    rw [lookup, List.mem_cons, Prod.mk.injEq]
    split
    next same =>
      subst same
      have absent : (k', v) ∉ rest := fun member => String.lt_irrefl k' (below.1 (k', v) member)
      simp [absent, eq_comm]
    next ne => simp [Ne.symm ne, lookup_eq_some_iff below.2]

theorem find?_eq_some_iff {m : SortedMap α} {k : String} {v : α} :
    m.find? k = some v ↔ (k, v) ∈ m.entries :=
  lookup_eq_some_iff m.sorted

theorem mem_keys_iff {m : SortedMap α} {k : String} : k ∈ m.keys ↔ ∃ v, m.find? k = some v := by
  simp [keys, find?_eq_some_iff]

theorem mem_values_iff {m : SortedMap α} {v : α} : v ∈ m.values ↔ ∃ k, m.find? k = some v := by
  simp [values, find?_eq_some_iff]

theorem find?_eq_none_of_not_mem {m : SortedMap α} {k : String} (absent : k ∉ m.keys) :
    m.find? k = none := by
  rw [mem_keys_iff] at absent
  exact Option.eq_none_iff_forall_ne_some.mpr fun v found => absent ⟨v, found⟩

@[simp] theorem find?_insert_self (m : SortedMap α) (k : String) (v : α) :
    (m.insert k v).find? k = some v := by simp [find?_insert]

theorem find?_insert_ne {m : SortedMap α} {k k' : String} (ne : k' ≠ k) (v : α) :
    (m.insert k v).find? k' = m.find? k' := by simp [find?_insert, ne]

theorem find?_erase_ne {m : SortedMap α} {k k' : String} (ne : k' ≠ k) :
    (m.erase k).find? k' = m.find? k' := by simp [find?_erase, ne]

/-- The later of two values under one key stays. -/
theorem insert_insert_self (m : SortedMap α) (k : String) (v w : α) :
    (m.insert k v).insert k w = m.insert k w := by
  apply ext_find?
  intro k'
  by_cases here : k' = k <;> simp [find?_insert, here]

theorem insert_comm (m : SortedMap α) {k k' : String} (ne : k ≠ k') (v w : α) :
    (m.insert k v).insert k' w = (m.insert k' w).insert k v := by
  apply ext_find?
  intro j
  by_cases here : j = k
  · subst here
    simp [find?_insert, ne]
  · simp [find?_insert, here]

/-! ## Overlaying -/

theorem find?_insertAll {k : String} :
    {es : List (String × α)} → es.Pairwise (fun a b => a.1 < b.1) → (m : SortedMap α) →
      (m.insertAll es).find? k = (lookup k es).or (m.find? k)
  | [], _, m => rfl
  | (k', v) :: rest, sorted, m => by
    have below := List.pairwise_cons.mp sorted
    have later : (m.insertAll ((k', v) :: rest)).find? k =
        (lookup k rest).or ((m.insert k' v).find? k) := find?_insertAll below.2 (m.insert k' v)
    rw [later, lookup, find?_insert]
    by_cases same : k' = k
    · subst same
      have absent : lookup k' rest = none := by
        refine Option.eq_none_iff_forall_ne_some.mpr fun w found => ?_
        exact String.lt_irrefl k' (below.1 (k', w) ((lookup_eq_some_iff below.2).mp found))
      simp [absent]
    · simp [same, Ne.symm same]

theorem find?_overlay (m top : SortedMap α) (k : String) :
    (m.overlay top).find? k = (top.find? k).or (m.find? k) :=
  find?_insertAll top.sorted m

/-- A key that the upper map lacks keeps its value. -/
theorem find?_overlay_of_not_mem {m top : SortedMap α} {k : String} (absent : k ∉ top.keys) :
    (m.overlay top).find? k = m.find? k := by
  rw [find?_overlay, find?_eq_none_of_not_mem absent, Option.none_or]

/-- A map is the map of its own entries. -/
@[simp] theorem ofList_entries (m : SortedMap α) : ofList m.entries = m := by
  apply ext_find?
  intro k
  have found : (ofList m.entries).find? k = (m.find? k).or (empty.find? k) :=
    find?_insertAll m.sorted empty
  rw [found, find?_empty, Option.or_none]

theorem empty_overlay (m : SortedMap α) : empty.overlay m = m := ofList_entries m

/-! ## Mapping -/

/-- Replaces every value by a function of it. -/
def mapValues (f : α → β) (m : SortedMap α) : SortedMap β :=
  ⟨m.entries.map fun e => (e.1, f e.2), m.sorted.map _ fun _ _ below => below⟩

theorem lookup_map (f : α → β) (k : String) :
    (es : List (String × α)) →
      lookup k (es.map fun e => (e.1, f e.2)) = (lookup k es).map f
  | [] => rfl
  | (k', v) :: rest => by
    rw [List.map_cons, lookup, lookup, lookup_map f k rest]
    split <;> rfl

theorem find?_mapValues (f : α → β) (m : SortedMap α) (k : String) :
    (m.mapValues f).find? k = (m.find? k).map f :=
  lookup_map f k m.entries

theorem mapValues_insert (f : α → β) (m : SortedMap α) (k : String) (v : α) :
    (m.insert k v).mapValues f = (m.mapValues f).insert k (f v) := by
  apply ext_find?
  intro k'
  rw [find?_mapValues, find?_insert, find?_insert, find?_mapValues]
  split <;> rfl

theorem mapValues_erase (f : α → β) (m : SortedMap α) (k : String) :
    (m.erase k).mapValues f = (m.mapValues f).erase k := by
  apply ext_find?
  intro k'
  rw [find?_mapValues, find?_erase, find?_erase, find?_mapValues]
  split <;> rfl

theorem values_mapValues (f : α → β) (m : SortedMap α) :
    (m.mapValues f).values = m.values.map f := by
  simp [values, mapValues, Function.comp_def]

end VectorStore.SortedMap
