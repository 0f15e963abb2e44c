import VectorStore.Statement

/-!
Distances between vectors, and the orders that rank rows by them. Sums run from the left.
-/
namespace VectorStore

/-- A sum from the left; the sum of nothing is `-0.0`. -/
def sumDoubles (xs : List Float) : Float := xs.foldl (· + ·) (-0.0)

/-- The products of two vectors' components. -/
def dotProduct (a b : List Float) : Float := sumDoubles (List.zipWith (· * ·) a b)

/-- The cosine of the angle between two vectors, zero where one has no length. -/
def cosineSimilarity (a b : List Float) : Float :=
  let normA := (dotProduct a a).sqrt
  let normB := (dotProduct b b).sqrt
  if normA == 0.0 || normB == 0.0 then 0.0 else dotProduct a b / (normA * normB)

/-- The distance of two vectors by a metric. -/
def Distance.between (metric : Distance) (a b : List Float) : Float :=
  match metric with
  | .cosine => 1.0 - cosineSimilarity a b
  | .euclidean => (sumDoubles (List.zipWith (fun x y => (x - y) * (x - y)) a b)).sqrt
  | .manhattan => sumDoubles (List.zipWith (fun x y => (x - y).abs) a b)

/-- The place of a distance among the distances to one query. One that is no number comes last if
the query has such a component itself, and first otherwise. -/
def distanceKey (query : List Float) (d : Float) : Int :=
  if d.isNaN then if query.any Float.isNaN then doubleSpan else -doubleSpan else totalKey d

/-- What a value counts for in `ORDER BY`: numbers stand above texts, texts above the rest. -/
inductive SortKey
  | other
  | text (s : String)
  | number (key : Int)
  deriving DecidableEq

namespace SortKey

def ofValue : Option Json → SortKey
  | some (.number n) => .number (totalKey n.toDouble)
  | some (.string s) => .text s
  | _ => .other

/-- Whether a key does not stand above another. -/
def le : SortKey → SortKey → Bool
  | .other, _ => true
  | .text _, .other => false
  | .text s, .text t => !decide (t < s)
  | .text _, .number _ => true
  | .number m, .number n => m ≤ n
  | .number _, _ => false

end SortKey
end VectorStore
