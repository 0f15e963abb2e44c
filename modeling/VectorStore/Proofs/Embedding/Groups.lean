import Mathlib.Algebra.Order.BigOperators.Group.List
import Mathlib.Algebra.Order.Ring.Nat
import VectorStore.Embedding.Basic

/-!
Texts in groups. By the contract of a grouping its groups follow one another over all texts
(`Grouping.Covers`), and there are groups unless one text has none by itself (`Grouping.Textwise`).
A batching keeps it; besides, every group is within the budget, and no division into stretches
within the budget has fewer of them (`Batching.partition_divides`). Put together again the groups
are the texts, so a model that takes a group text by text gives the same vectors however its texts
are grouped (`Embedder.embedAll_of_textwise`).
-/
namespace VectorStore

/-! ## Divisions -/

/-- Half-open ranges that follow one another from one index up to another. -/
inductive Tiles : Nat → Nat → List (Nat × Nat) → Prop
  | done (stop : Nat) : Tiles stop stop []
  | next {start cut stop : Nat} {rest : List (Nat × Nat)} (forward : start ≤ cut)
      (later : Tiles cut stop rest) : Tiles start stop ((start, cut) :: rest)

namespace Tiles

variable {start stop : Nat} {ranges : List (Nat × Nat)}

theorem le (tiles : Tiles start stop ranges) : start ≤ stop := by
  induction tiles with
  | done stop => exact Nat.le_refl stop
  | next forward later ih => exact Nat.le_trans forward ih

theorem start_le (tiles : Tiles start stop ranges) : ∀ range ∈ ranges, start ≤ range.1 := by
  induction tiles with
  | done stop => simp
  | @next start cut stop rest forward later ih =>
    intro range member
    rcases List.mem_cons.mp member with rfl | member
    · exact Nat.le_refl start
    · exact Nat.le_trans forward (ih range member)

/-- Every index stands in exactly one range. -/
theorem existsUnique (tiles : Tiles start stop ranges) {index : Nat} (fromStart : start ≤ index)
    (toStop : index < stop) : ∃! range, range ∈ ranges ∧ range.1 ≤ index ∧ index < range.2 := by
  induction tiles with
  | done stop => omega
  | @next start cut stop rest forward later ih =>
    by_cases here : index < cut
    · refine ⟨(start, cut), ⟨List.mem_cons_self, fromStart, here⟩, ?_⟩
      rintro range ⟨member, reached, -⟩
      rcases List.mem_cons.mp member with rfl | member
      · rfl
      · have := later.start_le range member
        omega
    · obtain ⟨range, ⟨member, reached, ends⟩, unique⟩ := ih (by omega) toStop
      refine ⟨range, ⟨List.mem_cons_of_mem _ member, reached, ends⟩, ?_⟩
      rintro other ⟨member, reached, ends⟩
      rcases List.mem_cons.mp member with rfl | member
      · omega
      · exact unique other ⟨member, reached, ends⟩

/-- The ranges of texts, one after another, are the texts between the ends. -/
theorem flatten_slices (texts : List String) (tiles : Tiles start stop ranges) :
    (ranges.map (Embedder.slice texts)).flatten = (texts.take stop).drop start := by
  induction tiles with
  | done stop => simp
  | @next start cut stop rest forward later ih =>
    have parts := List.take_append_drop (cut - start) ((texts.take stop).drop start)
    rw [List.drop_drop, Nat.add_sub_cancel' forward, ← List.drop_take, List.take_take,
      Nat.min_eq_left later.le] at parts
    rw [List.map_cons, List.flatten_cons, ih]
    exact parts

end Tiles

/-! ## Contracts -/

namespace Grouping

/-- The grouping has groups for the texts. -/
def Accepts (g : Grouping) (texts : List String) : Prop := ∃ ranges, g texts = .ok ranges

/-- The groups follow one another over all texts. -/
def Covers (g : Grouping) : Prop :=
  ∀ texts ranges, g texts = .ok ranges → Tiles 0 texts.length ranges

/-- Whether texts have groups is decided for each by itself. -/
def Textwise (g : Grouping) : Prop :=
  ∀ texts, g.Accepts texts ↔ ∀ text ∈ texts, g.Accepts [text]

end Grouping

namespace Batching

/-- The tokens of a half-open range. -/
def load (tokens : List Nat) (range : Nat × Nat) : Nat :=
  ((tokens.take range.2).drop range.1).sum

/-- A division of texts into stretches of neighbours, each within the budget. -/
structure Divides (b : Batching) (texts : List String) (ranges : List (Nat × Nat)) : Prop where
  tiles : Tiles 0 texts.length ranges
  within : ∀ range ∈ ranges, load (texts.map estimate) range ≤ b.budget

@[simp] theorem load_self (tokens : List Nat) (index : Nat) : load tokens (index, index) = 0 := by
  simp [load]

/-- A wider range has no fewer tokens. -/
theorem load_mono (tokens : List Nat) {start start' stop stop' : Nat} (fromStart : start' ≤ start)
    (toStop : stop ≤ stop') : load tokens (start, stop) ≤ load tokens (start', stop') := by
  have inside : ((tokens.take stop).drop start).Sublist ((tokens.take stop').drop start') :=
    ((List.take_sublist_take_left toStop).drop start).trans
      (List.drop_sublist_drop_left _ fromStart)
  exact inside.sum_le_sum fun _ _ => Nat.zero_le _

/-! ## The group being formed -/

variable {budget start used index t : Nat} {tokens rest : List Nat} {made : List (Nat × Nat)}

/-- A group on its way: it begins at `start`, uses `used` tokens and ends before `index`, where the
tokens go on with `rest`. -/
structure Forming (tokens : List Nat) (start used index : Nat) (rest : List Nat) : Prop where
  begun : start ≤ index
  load_eq : load tokens (start, index) = used
  drop_eq : tokens.drop index = rest

namespace Forming

theorem first (tokens : List Nat) : Forming tokens 0 0 0 tokens where
  begun := Nat.le_refl 0
  load_eq := load_self tokens 0
  drop_eq := rfl

theorem grow (forming : Forming tokens start used index (t :: rest)) :
    Forming tokens start (used + t) (index + 1) rest := by
  obtain ⟨begun, load_eq, drop_eq⟩ := forming
  have here : tokens[index]? = some t := by
    have head : (tokens.drop index)[0]? = some t := by simp [drop_eq]
    simpa using head
  have inside : index < tokens.length := (List.getElem?_eq_some_iff.mp here).1
  constructor
  · omega
  · have reached : start ≤ (tokens.take index).length := by
      rw [List.length_take]
      omega
    rw [load] at load_eq ⊢
    rw [List.take_add_one, here, List.drop_append_of_le_length reached, List.sum_append, load_eq]
    simp
  · rw [← List.tail_drop, drop_eq, List.tail_cons]

/-- A new group begins where the one before ends. -/
theorem renew (forming : Forming tokens start used index (t :: rest)) :
    Forming tokens index t (index + 1) rest := by
  have empty : Forming tokens index 0 index (t :: rest) :=
    ⟨Nat.le_refl index, load_self tokens index, forming.drop_eq⟩
  simpa using empty.grow

end Forming

/-- What one more text does: it is above the budget, it begins a group of its own since it would
not fit, or it joins the group before it. -/
theorem ranges_cons_eq_ok (done : ranges budget start used index (t :: rest) = .ok made) :
    t ≤ budget ∧
      ((budget < used + t ∧ start < index ∧ ∃ later, made = (start, index) :: later ∧
          ranges budget index t (index + 1) rest = .ok later) ∨
        ((used + t ≤ budget ∨ index ≤ start) ∧
          ranges budget start (used + t) (index + 1) rest = .ok made)) := by
  rw [ranges] at done
  by_cases long : budget < t
  · simp [long] at done
  · rw [if_neg long] at done
    refine ⟨Nat.not_lt.mp long, ?_⟩
    by_cases full : budget < used + t ∧ start < index
    · rw [if_pos full] at done
      cases continued : ranges budget index t (index + 1) rest with
      | error fault => simp [continued, Except.map] at done
      | ok later =>
        rw [continued] at done
        exact .inl ⟨full.1, full.2, later, (Except.ok.inj done).symm, rfl⟩
    · rw [if_neg full] at done
      exact .inr ⟨by omega, done⟩

theorem exists_ranges_iff : (∃ made, ranges budget start used index tokens = .ok made) ↔
    ∀ t ∈ tokens, t ≤ budget := by
  induction tokens generalizing start used index with
  | nil => simp [ranges]
  | cons t rest ih =>
    rw [List.forall_mem_cons]
    constructor
    · rintro ⟨made, done⟩
      obtain ⟨short, ⟨-, -, later, -, continued⟩ | ⟨-, continued⟩⟩ := ranges_cons_eq_ok done
      · exact ⟨short, ih.mp ⟨later, continued⟩⟩
      · exact ⟨short, ih.mp ⟨made, continued⟩⟩
    · rintro ⟨short, others⟩
      rw [ranges, if_neg (Nat.not_lt.mpr short)]
      by_cases full : budget < used + t ∧ start < index
      · obtain ⟨later, continued⟩ := @ih index t (index + 1) |>.mpr others
        exact ⟨(start, index) :: later, by rw [if_pos full, continued]; rfl⟩
      · rw [if_neg full]
        exact ih.mpr others

theorem tiles_of_ranges (begun : start ≤ index)
    (done : ranges budget start used index tokens = .ok made) :
    Tiles start (index + tokens.length) made ∧ ∀ range ∈ made, range.1 < range.2 := by
  induction tokens generalizing start used index made with
  | nil =>
    rw [ranges] at done
    by_cases pending : start < index
    · obtain rfl : [(start, index)] = made := by simpa [pending] using done
      exact ⟨.next begun (.done index), by simpa using pending⟩
    · obtain rfl : [] = made := by simpa [pending] using done
      obtain rfl : start = index := by omega
      exact ⟨.done start, by simp⟩
  | cons t rest ih =>
    obtain ⟨-, ⟨-, nonempty, later, rfl, continued⟩ | ⟨-, continued⟩⟩ := ranges_cons_eq_ok done
    · obtain ⟨tiles, forward⟩ := ih (by omega) continued
      rw [Nat.add_right_comm] at tiles
      exact ⟨.next begun tiles, List.forall_mem_cons.mpr ⟨nonempty, forward⟩⟩
    · obtain ⟨tiles, forward⟩ := ih (by omega) continued
      rw [Nat.add_right_comm] at tiles
      exact ⟨tiles, forward⟩

theorem load_le_of_ranges (forming : Forming tokens start used index rest)
    (within : used ≤ budget) (done : ranges budget start used index rest = .ok made) :
    ∀ range ∈ made, load tokens range ≤ budget := by
  induction rest generalizing start used index made with
  | nil =>
    rw [ranges] at done
    obtain rfl := Except.ok.inj done
    intro range member
    by_cases pending : start < index
    · obtain rfl : range = (start, index) := by simpa [pending] using member
      rw [forming.load_eq]
      exact within
    · simp [pending] at member
  | cons t rest ih =>
    obtain ⟨short, ⟨-, -, later, rfl, continued⟩ | ⟨room, continued⟩⟩ := ranges_cons_eq_ok done
    · rw [List.forall_mem_cons, forming.load_eq]
      exact ⟨within, ih forming.renew short continued⟩
    · refine ih forming.grow ?_ continued
      rcases room with fits | empty
      · exact fits
      · -- a group without texts uses no tokens
        obtain rfl : start = index := Nat.le_antisymm forming.begun empty
        have unused := forming.load_eq
        rw [load_self] at unused
        omega

/-- A division that is no further on than the group being formed has as many ranges left. -/
theorem length_le_of_ranges (forming : Forming tokens start used index rest)
    (done : ranges budget start used index rest = .ok made) {behind : Nat}
    (earlier : behind ≤ start) {others : List (Nat × Nat)}
    (tiles : Tiles behind (index + rest.length) others)
    (within : ∀ range ∈ others, load tokens range ≤ budget) : made.length ≤ others.length := by
  induction rest generalizing start used index made behind others with
  | nil =>
    rw [ranges] at done
    obtain rfl := Except.ok.inj done
    rw [List.length_nil, Nat.add_zero] at tiles
    by_cases pending : start < index
    · cases tiles with
      | done stop => omega
      | next forward later => simp [pending]
    · simp [pending]
  | cons t rest ih =>
    have stopEq : index + (t :: rest).length = index + 1 + rest.length := by
      rw [List.length_cons]
      omega
    rw [stopEq] at tiles
    obtain ⟨-, ⟨full, nonempty, later, rfl, continued⟩ | ⟨-, continued⟩⟩ := ranges_cons_eq_ok done
    · cases tiles with
      | done stop => omega
      | @next _ cut _ others forward tiles =>
        obtain ⟨first, within⟩ := List.forall_mem_cons.mp within
        -- the first range of the division ends where the group is full, or before
        have cutLe : cut ≤ index := by
          by_contra further
          have reached : index + 1 ≤ cut := Nat.lt_of_not_le further
          have wider := load_mono tokens earlier reached
          have whole := forming.grow.load_eq
          omega
        have := ih forming.renew continued cutLe tiles within
        simpa using this
    · exact ih forming.grow continued earlier tiles within

/-! ## Texts -/

variable {b : Batching} {texts : List String} {divided : List (Nat × Nat)}

theorem accepts_iff : Grouping.Accepts b texts ↔ ∀ text ∈ texts, estimate text ≤ b.budget := by
  rw [← List.forall_mem_map (P := (· ≤ b.budget))]
  exact exists_ranges_iff

theorem divides_of_partition (done : b.partition texts = .ok divided) :
    b.Divides texts divided ∧ ∀ range ∈ divided, range.1 < range.2 := by
  obtain ⟨tiles, nonempty⟩ := tiles_of_ranges (Nat.le_refl 0) done
  rw [List.length_map, Nat.zero_add] at tiles
  exact ⟨⟨tiles, load_le_of_ranges (Forming.first _) (Nat.zero_le _) done⟩, nonempty⟩

theorem covers (b : Batching) : Grouping.Covers b := by
  intro texts ranges done
  exact (divides_of_partition done).1.tiles

theorem textwise (b : Batching) : Grouping.Textwise b := by
  intro texts
  simp only [accepts_iff, List.forall_mem_singleton]

/-- Texts are divided exactly if each is within the budget by itself. Of the division no range is
empty, every text stands in one range, and no other division within the budget has fewer ranges. -/
theorem partition_divides (b : Batching) (texts : List String) :
    ((∃ fault, b.partition texts = .error fault) ↔
        ∃ text ∈ texts, b.budget < estimate text) ∧
      ∀ ranges, b.partition texts = .ok ranges →
        b.Divides texts ranges ∧ (∀ range ∈ ranges, range.1 < range.2) ∧
          (∀ index < texts.length,
            ∃! range, range ∈ ranges ∧ range.1 ≤ index ∧ index < range.2) ∧
          ∀ others, b.Divides texts others → ranges.length ≤ others.length := by
  have fits := @accepts_iff b texts
  rw [Grouping.Accepts] at fits
  constructor
  · cases done : b.partition texts with
    | error fault =>
      rw [done] at fits
      have long : ¬ ∀ text ∈ texts, estimate text ≤ b.budget := by
        rw [← fits]
        rintro ⟨_, ⟨⟩⟩
      simpa using long
    | ok ranges =>
      have short := fits.mp ⟨ranges, done⟩
      constructor
      · rintro ⟨_, ⟨⟩⟩
      · rintro ⟨text, member, long⟩
        have := short text member
        omega
  · intro ranges done
    obtain ⟨divides, nonempty⟩ := divides_of_partition done
    refine ⟨divides, nonempty, ?_, ?_⟩
    · intro index inside
      exact divides.tiles.existsUnique (Nat.zero_le index) inside
    · intro others division
      have tiles := division.tiles
      rw [← List.length_map (f := estimate), ← Nat.zero_add (List.length _)] at tiles
      exact length_le_of_ranges (Forming.first _) done (Nat.le_refl 0) tiles division.within

/-- A batching with a budget of two tokens, which eight characters use up. -/
def twoTokens : Batching := ⟨2, 0.0⟩

/-- Texts of two, two, one, one and no tokens. -/
def fiveTexts : List String := ["aaaaaaaa", "bbbbbbbb", "cc", "dd", ""]

theorem partition_fiveTexts : twoTokens.partition fiveTexts = .ok [(0, 1), (1, 2), (2, 5)] := by
  have two : twoTokens.budget = 2 := by decide +kernel
  rw [partition, two]
  rfl

/-- Two texts that fill a group each, and three that share one, take three groups at least. -/
theorem three_groups_of_fiveTexts :
    twoTokens.partition fiveTexts = .ok [(0, 1), (1, 2), (2, 5)] ∧
      twoTokens.Divides fiveTexts [(0, 1), (1, 2), (2, 5)] ∧
      ∀ others, twoTokens.Divides fiveTexts others → 3 ≤ others.length := by
  obtain ⟨divides, -, -, fewest⟩ := (partition_divides twoTokens fiveTexts).2 _ partition_fiveTexts
  exact ⟨partition_fiveTexts, divides, fewest⟩

end Batching

/-! ## Vectors -/

namespace Embedder

variable {m : Embedder} {g : Grouping} {texts : List String} {gs : List (List String)}

/-- A model that takes a group text by text. -/
def Textwise (m : Embedder) : Prop := ∀ texts, m.embedGroup texts = embedEach m.embed texts

theorem embedEach_eq_ok_iff {embed : String → Except Error Embedding} {vectors : List Embedding} :
    embedEach embed texts = .ok vectors ↔ texts.map embed = vectors.map .ok := by
  induction texts generalizing vectors with
  | nil => cases vectors <;> simp [embedEach]
  | cons text rest ih =>
    rw [embedEach, List.map_cons]
    cases embedded : embed text with
    | error fault => cases vectors <;> simp
    | ok v =>
      cases later : embedEach embed rest with
      | error fault =>
        rw [later] at ih
        cases vectors with
        | nil => simp
        | cons v' vs =>
          have unequal : rest.map embed ≠ vs.map .ok := by simp [← ih]
          simp [unequal]
      | ok others =>
        rw [later] at ih
        cases vectors with
        | nil => simp
        | cons v' vs => simp [← ih]

theorem length_embedEach {embed : String → Except Error Embedding} {vectors : List Embedding}
    (embedded : embedEach embed texts = .ok vectors) : vectors.length = texts.length := by
  have counted := congrArg List.length (embedEach_eq_ok_iff.mp embedded)
  rw [List.length_map, List.length_map] at counted
  exact counted.symm

theorem exists_embedEach_iff {embed : String → Except Error Embedding} :
    (∃ vectors, embedEach embed texts = .ok vectors) ↔ ∀ text ∈ texts, ∃ v, embed text = .ok v := by
  induction texts with
  | nil => simp [embedEach]
  | cons text rest ih =>
    rw [List.forall_mem_cons, ← ih, embedEach]
    cases embed text with
    | error fault => simp
    | ok v => cases embedEach embed rest <;> simp

theorem embedEach_append (embed : String → Except Error Embedding) (first rest : List String) :
    embedEach embed (first ++ rest) =
      (embedEach embed first).bind fun vectors => (embedEach embed rest).map (vectors ++ ·) := by
  induction first with
  | nil =>
    rw [List.nil_append]
    cases embedEach embed rest <;> rfl
  | cons text first ih =>
    rw [List.cons_append, embedEach, embedEach, ih]
    cases embed text with
    | error fault => rfl
    | ok v =>
      cases embedEach embed first with
      | error fault => rfl
      | ok vectors => cases embedEach embed rest <;> rfl

theorem exists_groups_iff : (∃ gs, groups g texts = .ok gs) ↔ g.Accepts texts := by
  rw [groups, Grouping.Accepts]
  cases g texts <;> simp [Except.map]

/-- The groups one after another are the texts. -/
theorem flatten_groups (covers : g.Covers) (grouped : groups g texts = .ok gs) :
    gs.flatten = texts := by
  rw [groups] at grouped
  cases done : g texts with
  | error fault => simp [done, Except.map] at grouped
  | ok ranges =>
    obtain rfl : ranges.map (slice texts) = gs := by simpa [done, Except.map] using grouped
    rw [(covers texts ranges done).flatten_slices texts, List.take_length, List.drop_zero]

theorem groupVectors_eq_ok_iff {group : List String} {vectors : List Embedding} :
    m.groupVectors group = .ok vectors ↔
      m.embedGroup group = .ok vectors ∧ vectors.length = group.length := by
  rw [groupVectors]
  cases m.embedGroup group with
  | error fault => simp
  | ok vs =>
    by_cases counted : vs.length = group.length
    · simp only [counted, if_true, Except.ok.injEq]
      constructor
      · rintro rfl
        exact ⟨rfl, counted⟩
      · exact And.left
    · simp only [counted, if_false, Except.ok.injEq]
      constructor
      · nofun
      · rintro ⟨rfl, equal⟩
        exact absurd equal counted

/-- Every group has its vectors, as many as texts, or none gets any. -/
theorem exists_groupsVectors_iff : (∃ vectors, m.groupsVectors gs = .ok vectors) ↔
    ∀ group ∈ gs, ∃ vectors, m.embedGroup group = .ok vectors ∧
      vectors.length = group.length := by
  induction gs with
  | nil => simp [groupsVectors]
  | cons group rest ih =>
    rw [List.forall_mem_cons, ← ih, groupsVectors]
    simp only [← groupVectors_eq_ok_iff]
    cases m.groupVectors group with
    | error fault => simp
    | ok vectors => cases m.groupsVectors rest <;> simp

theorem length_groupsVectors {vectors : List Embedding}
    (embedded : m.groupsVectors gs = .ok vectors) : vectors.length = gs.flatten.length := by
  induction gs generalizing vectors with
  | nil =>
    obtain rfl := Except.ok.inj embedded
    rfl
  | cons group rest ih =>
    rw [groupsVectors] at embedded
    cases first : m.groupVectors group with
    | error fault => simp [first] at embedded
    | ok vs =>
      cases later : m.groupsVectors rest with
      | error fault => simp [first, later] at embedded
      | ok others =>
        obtain rfl : vs ++ others = vectors := by simpa [first, later] using embedded
        obtain ⟨-, counted⟩ := groupVectors_eq_ok_iff.mp first
        rw [List.flatten_cons, List.length_append, List.length_append, counted, ih later]

theorem exists_groups_of_embedAll {vectors : List Embedding}
    (embedded : m.embedAll g texts = .ok vectors) :
    ∃ gs, groups g texts = .ok gs ∧ m.groupsVectors gs = .ok vectors := by
  rw [embedAll] at embedded
  cases grouped : groups g texts with
  | error fault => simp [grouped] at embedded
  | ok gs => exact ⟨gs, rfl, by simpa [grouped] using embedded⟩

/-- Every text has a vector, whatever the model makes of a group. -/
theorem length_embedAll (covers : g.Covers) {vectors : List Embedding}
    (embedded : m.embedAll g texts = .ok vectors) : vectors.length = texts.length := by
  obtain ⟨gs, grouped, embedded⟩ := exists_groups_of_embedAll embedded
  rw [length_groupsVectors embedded, flatten_groups covers grouped]

/-! ### A model that takes a group text by text -/

theorem groupVectors_of_textwise (textwise : m.Textwise) (group : List String) :
    m.groupVectors group = embedEach m.embed group := by
  rw [groupVectors, textwise]
  cases embedded : embedEach m.embed group with
  | error fault => rfl
  | ok vectors =>
    simp [length_embedEach embedded]

theorem groupsVectors_of_textwise (textwise : m.Textwise) (gs : List (List String)) :
    m.groupsVectors gs = embedEach m.embed gs.flatten := by
  induction gs with
  | nil => rfl
  | cons group rest ih =>
    rw [groupsVectors, List.flatten_cons, embedEach_append, groupVectors_of_textwise textwise, ih]
    cases embedEach m.embed group with
    | error fault => rfl
    | ok vectors => cases embedEach m.embed rest.flatten <;> rfl

/-- The vectors of texts do not depend on the groups, where there are any. -/
theorem embedAll_of_textwise (textwise : m.Textwise) (covers : g.Covers)
    (accepted : g.Accepts texts) : m.embedAll g texts = embedEach m.embed texts := by
  obtain ⟨gs, grouped⟩ := exists_groups_iff.mpr accepted
  rw [embedAll, grouped, ← flatten_groups covers grouped]
  exact groupsVectors_of_textwise textwise gs

end Embedder
end VectorStore
