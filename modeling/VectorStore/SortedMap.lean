/-!
Maps from text to values, kept as a list of entries in strictly increasing key order.
The order is part of the type, so a map has one representation: two maps with the same
look-ups are equal (`SortedMap.ext_find?`), and listing a map needs no sorting.
-/
namespace VectorStore

/-- A finite map with text keys; its entries stand in strictly increasing key order. -/
structure SortedMap (α : Type) where
  entries : List (String × α)
  sorted : entries.Pairwise fun a b => a.1 < b.1

namespace SortedMap

variable {α β : Type}

private theorem lt_of_not_lt_of_ne {k k' : String} (below : ¬ k < k') (ne : k ≠ k') : k' < k :=
  Decidable.byContradiction fun h => ne (String.le_antisymm h below)

/-- The value under a key in a list of entries. -/
def lookup (k : String) : List (String × α) → Option α
  | [] => none
  | (k', v) :: rest => if k' = k then some v else lookup k rest
/-- Places a value in key order; a value already under the key is replaced. -/
def place (k : String) (v : α) : List (String × α) → List (String × α)
  | [] => [(k, v)]
  | (k', v') :: rest =>
    if k < k' then (k, v) :: (k', v') :: rest
    else if k = k' then (k, v) :: rest
    else (k', v') :: place k v rest
/-- Drops every entry under a key. -/
def remove (k : String) (es : List (String × α)) : List (String × α) :=
  es.filter fun e => e.1 ≠ k

theorem mem_place {k : String} {v : α} {e : String × α} {es : List (String × α)}
    (h : e ∈ place k v es) : e = (k, v) ∨ e ∈ es := by
  induction es with
  | nil => simpa [place] using h
  | cons head rest ih =>
    obtain ⟨k', v'⟩ := head
    rw [place] at h
    split at h
    · simpa using h
    · split at h
      · rcases List.mem_cons.mp h with h | h
        · exact .inl h
        · exact .inr (List.mem_cons_of_mem _ h)
      · rcases List.mem_cons.mp h with h | h
        · exact .inr (h ▸ List.mem_cons_self)
        · exact (ih h).imp id (List.mem_cons_of_mem _)

theorem pairwise_place (k : String) (v : α) {es : List (String × α)}
    (h : es.Pairwise fun a b => a.1 < b.1) : (place k v es).Pairwise fun a b => a.1 < b.1 := by
  induction es with
  | nil => simp [place]
  | cons head rest ih =>
    obtain ⟨k', v'⟩ := head
    have tail := List.pairwise_cons.mp h
    rw [place]
    split
    next less =>
      refine List.pairwise_cons.mpr ⟨fun e member => ?_, h⟩
      rcases List.mem_cons.mp member with rfl | member
      · exact less
      · exact String.lt_trans less (tail.1 e member)
    next notLess =>
      split
      next same => subst same; exact List.pairwise_cons.mpr tail
      next ne =>
        refine List.pairwise_cons.mpr ⟨fun e member => ?_, ih tail.2⟩
        rcases mem_place member with rfl | member
        · exact lt_of_not_lt_of_ne notLess ne
        · exact tail.1 e member

/-- The map without entries. -/
def empty : SortedMap α := ⟨[], .nil⟩
instance : Inhabited (SortedMap α) := ⟨empty⟩
/-- The value under a key. -/
def find? (m : SortedMap α) (k : String) : Option α := lookup k m.entries
/-- Whether a key has a value. -/
def contains (m : SortedMap α) (k : String) : Bool := (m.find? k).isSome
/-- Sets the value under a key. -/
def insert (m : SortedMap α) (k : String) (v : α) : SortedMap α :=
  ⟨place k v m.entries, pairwise_place k v m.sorted⟩
/-- Takes a key out. -/
def erase (m : SortedMap α) (k : String) : SortedMap α :=
  ⟨remove k m.entries, m.sorted.filter _⟩
/-- Sets every entry of a list in turn, so the last value of a repeated key stays. -/
def insertAll (m : SortedMap α) (es : List (String × α)) : SortedMap α :=
  es.foldl (fun m e => m.insert e.1 e.2) m
/-- The map of a list of entries; the last value of a repeated key stays. -/
def ofList (es : List (String × α)) : SortedMap α := empty.insertAll es
/-- Lays `top` over `m`: keys of `top` take its values, other keys keep theirs. -/
def overlay (m top : SortedMap α) : SortedMap α := m.insertAll top.entries
/-- The keys, in order. -/
def keys (m : SortedMap α) : List String := m.entries.map (·.1)
/-- The values, in key order. -/
def values (m : SortedMap α) : List α := m.entries.map (·.2)
/-- The number of keys. -/
def size (m : SortedMap α) : Nat := m.entries.length

theorem lookup_place_self (k : String) (v : α) (es : List (String × α)) :
    lookup k (place k v es) = some v := by
  induction es with
  | nil => simp [place, lookup]
  | cons head rest ih =>
    obtain ⟨k', v'⟩ := head
    rw [place]
    split
    · simp [lookup]
    · split
      · simp [lookup]
      next ne => simp [lookup, Ne.symm ne, ih]

theorem lookup_place_ne {k k' : String} (ne : k' ≠ k) (v : α) (es : List (String × α)) :
    lookup k' (place k v es) = lookup k' es := by
  induction es with
  | nil => simp [place, lookup, Ne.symm ne]
  | cons head rest ih =>
    obtain ⟨k'', v''⟩ := head
    rw [place]
    split
    · simp [lookup, Ne.symm ne]
    · split
      next same => subst same; simp [lookup, Ne.symm ne]
      · by_cases same : k'' = k' <;> simp [lookup, same, ih]

theorem lookup_remove (k k' : String) (es : List (String × α)) :
    lookup k' (remove k es) = if k' = k then none else lookup k' es := by
  induction es with
  | nil => simp [remove, lookup]
  | cons head rest ih =>
    obtain ⟨k'', v''⟩ := head
    rw [remove] at ih ⊢
    rw [List.filter_cons]
    split <;> grind [lookup]

theorem find?_insert (m : SortedMap α) (k k' : String) (v : α) :
    (m.insert k v).find? k' = if k' = k then some v else m.find? k' := by
  split
  next same => subst same; exact lookup_place_self ..
  next ne => exact lookup_place_ne ne ..

theorem find?_erase (m : SortedMap α) (k k' : String) :
    (m.erase k).find? k' = if k' = k then none else m.find? k' := lookup_remove ..

@[simp] theorem find?_empty (k : String) : (empty : SortedMap α).find? k = none := rfl

private theorem lookup_eq_none_of_lt {k : String} {es : List (String × α)}
    (h : ∀ e ∈ es, k < e.1) : lookup k es = none := by
  induction es with
  | nil => rfl
  | cons head rest ih =>
    obtain ⟨k', v'⟩ := head
    have ne : k' ≠ k := fun same => String.lt_irrefl k (same ▸ h _ List.mem_cons_self)
    simp [lookup, ne, ih fun e member => h e (List.mem_cons_of_mem _ member)]

private theorem entries_ext {es fs : List (String × α)}
    (hes : es.Pairwise fun a b => a.1 < b.1) (hfs : fs.Pairwise fun a b => a.1 < b.1)
    (h : ∀ k, lookup k es = lookup k fs) : es = fs := by
  induction es generalizing fs with
  | nil =>
    cases fs with
    | nil => rfl
    | cons f fs => have := h f.1; simp [lookup] at this
  | cons e es ih =>
    obtain ⟨k, v⟩ := e
    have below := List.pairwise_cons.mp hes
    cases fs with
    | nil => have := h k; simp [lookup] at this
    | cons f fs =>
      obtain ⟨k', v'⟩ := f
      have below' := List.pairwise_cons.mp hfs
      have same : k = k' := by
        refine Decidable.byContradiction fun ne => ?_
        by_cases less : k < k'
        · have none := @lookup_eq_none_of_lt α k ((k', v') :: fs) fun e member =>
            (List.mem_cons.mp member).elim (fun same => same ▸ less)
              fun member => String.lt_trans less (below'.1 e member)
          have := h k
          simp [none] at this
          simp [lookup] at this
        · have less' := lt_of_not_lt_of_ne less ne
          have none := @lookup_eq_none_of_lt α k' ((k, v) :: es) fun e member =>
            (List.mem_cons.mp member).elim (fun same => same ▸ less')
              fun member => String.lt_trans less' (below.1 e member)
          have := h k'
          simp [none] at this
          simp [lookup] at this
      subst same
      have value : v = v' := by have := h k; simpa [lookup] using this
      subst value
      refine congrArg _ (ih below.2 below'.2 fun j => ?_)
      by_cases same : k = j
      · subst same
        rw [lookup_eq_none_of_lt below.1, lookup_eq_none_of_lt below'.1]
      · have := h j; simpa [lookup, same] using this

/-- A map is determined by its look-ups. -/
theorem ext_find? {m n : SortedMap α} (h : ∀ k, m.find? k = n.find? k) : m = n := by
  obtain ⟨es, hes⟩ := m
  obtain ⟨fs, hfs⟩ := n
  obtain rfl := entries_ext hes hfs h
  rfl

end SortedMap
end VectorStore
