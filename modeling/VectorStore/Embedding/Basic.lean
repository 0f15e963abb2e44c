import VectorStore.Embedding.Batching

/-!
Embedders: models that turn texts into vectors, one at a time or in groups.
-/
namespace VectorStore

/-- The vector of a text. -/
abbrev Embedding := List Float32

/-- A model. A dimension of zero means that the model does not report it. -/
structure Embedder where
  dimension : Nat
  embed : String → Except Error Embedding
  embedGroup : List String → Except Error (List Embedding)

namespace Embedder

/-- The vectors of texts embedded one by one, unless one fails. -/
def embedEach (embed : String → Except Error Embedding) :
    List String → Except Error (List Embedding)
  | [] => .ok []
  | text :: rest =>
    match embed text with
    | .error e => .error e
    | .ok v =>
      match embedEach embed rest with
      | .error e => .error e
      | .ok vs => .ok (v :: vs)

/-- A model that embeds a group text by text. -/
def ofSingle (dimension : Nat) (embed : String → Except Error Embedding) : Embedder :=
  ⟨dimension, embed, embedEach embed⟩

/-- The vectors of a group, as many as its texts. -/
def groupVectors (m : Embedder) (texts : List String) : Except Error (List Embedding) :=
  match m.embedGroup texts with
  | .error e => .error e
  | .ok vectors =>
    if vectors.length = texts.length then .ok vectors
    else .error (.embedding (.miscount vectors.length texts.length))

/-- The vectors of groups one after another, up to the first that fails. -/
def groupsVectors (m : Embedder) : List (List String) → Except Error (List Embedding)
  | [] => .ok []
  | group :: rest =>
    match m.groupVectors group with
    | .error e => .error e
    | .ok vectors =>
      match m.groupsVectors rest with
      | .error e => .error e
      | .ok others => .ok (vectors ++ others)
/-- The groups that are handed to the model: all up to the first that fails, with it. -/
def submitted (m : Embedder) : List (List String) → List (List String)
  | [] => []
  | group :: rest =>
    match m.groupVectors group with
    | .error _ => [group]
    | .ok _ => group :: m.submitted rest

/-- The texts of a half-open range. -/
def slice (texts : List String) (range : Nat × Nat) : List String :=
  (texts.take range.2).drop range.1
/-- The texts of every group. -/
def groups (g : Grouping) (texts : List String) : Except Error (List (List String)) :=
  (g texts).map fun ranges => ranges.map (slice texts)
/-- The vectors of texts, embedded group by group. -/
def embedAll (m : Embedder) (g : Grouping) (texts : List String) :
    Except Error (List Embedding) :=
  match groups g texts with
  | .error e => .error e
  | .ok gs => m.groupsVectors gs

end Embedder
end VectorStore
