import VectorStore.Proofs.Database.Distance

/-!
Stable sorts and their first elements. A stable sort by one order of a list that stands in another
is sorted by both, the second breaking ties of the first, and the first elements of a strictly
sorted list are those with few enough before them.
-/
namespace VectorStore

section
variable {α : Type} {r : α → α → Bool} {l : List α}

/-- Elements that tie keep their order in a sort. -/
theorem filter_tied_mergeSort (transitive : ∀ a b c, r a b → r b c → r a c)
    (total : ∀ a b, r a b || r b a) (a : α) :
    (l.mergeSort r).filter (fun b => r a b && r b a) = l.filter fun b => r a b && r b a := by
  let tied (b : α) : Bool := r a b && r b a
  have ordered : (l.filter tied).Pairwise fun b c => r b c := by
    refine List.pairwise_of_forall_mem_list fun b inside c inside' => ?_
    have left := (Bool.and_eq_true_iff.mp (List.mem_filter.mp inside).2).2
    have right := (Bool.and_eq_true_iff.mp (List.mem_filter.mp inside').2).1
    exact transitive b a c left right
  have kept := (List.sublist_mergeSort transitive total ordered List.filter_sublist).filter tied
  rw [List.filter_filter] at kept
  simp only [Bool.and_self] at kept
  exact (kept.eq_of_length ((List.mergeSort_perm l r).filter tied).length_eq.symm).symm

/-- A sort of a list that stands in an order keeps that order among elements that tie. -/
theorem pairwise_mergeSort_of_pairwise {R : α → α → Prop}
    (transitive : ∀ a b c, r a b → r b c → r a c) (total : ∀ a b, r a b || r b a)
    (sorted : l.Pairwise R) :
    (l.mergeSort r).Pairwise fun a b => r a b = true ∧ (r b a = true → R a b) := by
  have ordered := List.pairwise_mergeSort transitive total l
  rw [List.pairwise_iff_forall_sublist] at ordered sorted ⊢
  intro a b pair
  refine ⟨ordered pair, fun back => ?_⟩
  have reflexive : r a a = true := by simpa using total a a
  have both := pair.filter fun c => r a c && r c a
  rw [filter_tied_mergeSort transitive total] at both
  refine sorted ((List.Sublist.trans ?_ both).trans List.filter_sublist)
  simp [reflexive, ordered pair, back]

/-- The first elements of a strictly sorted list are those with few enough before them. -/
theorem mem_take_iff {before : α → α → Bool} (irreflexive : ∀ a ∈ l, before a a = false)
    (sorted : l.Pairwise fun a b => before a b = true ∧ before b a = false) (k : Nat) (a : α) :
    a ∈ l.take k ↔ a ∈ l ∧ l.countP (before · a) < k := by
  induction l generalizing k with
  | nil => simp
  | cons b rest ih =>
    obtain ⟨first, sorted⟩ := List.pairwise_cons.mp sorted
    cases k with
    | zero => simp
    | succ k =>
      obtain ⟨self, irreflexive⟩ := List.forall_mem_cons.mp irreflexive
      rw [List.take_succ_cons, List.mem_cons, List.mem_cons, ih irreflexive sorted,
        List.countP_cons]
      by_cases same : a = b
      · subst same
        have none : rest.countP (before · a) = 0 :=
          List.countP_eq_zero.mpr fun c member => by simp [(first c member).2]
        simp [self, none]
      · refine ⟨?_, ?_⟩
        · rintro (rfl | ⟨member, few⟩)
          · contradiction
          · rw [if_pos (first a member).1]
            exact ⟨.inr member, by omega⟩
        · rintro ⟨rfl | member, few⟩
          · contradiction
          · rw [if_pos (first a member).1] at few
            exact .inr ⟨member, by omega⟩

end

/-- A distance that is a number has its place in the order of doubles. -/
theorem distanceKey_of_finite (query : List Float) {d : Float} (finite : doubleFinite d = true) :
    distanceKey query d = totalKey d := by
  have number : d.isNaN = false := by
    change d.toModel.unpack.isNaN = false
    cases parts_of_finite finite with
    | zero _ unpacks => rw [unpacks]; rfl
    | finite _ _ _ _ _ _ _ unpacks => rw [unpacks]; rfl
  rw [distanceKey, number]
  rfl

end VectorStore
