import VectorStore.Filter.Parser
import VectorStore.Embedding.Basic

/-!
What goes into a store and what comes out: documents, search requests and ranked results.
-/
namespace VectorStore

/-- A text with its id and metadata, and its vector if it brings one. -/
structure Document where
  id : String
  content : String
  metadata : Fields
  embedding : Option Embedding

/-- A question to a store. -/
structure SearchRequest where
  query : String
  topK : Nat
  threshold : Float
  filter : Option Filter

namespace SearchRequest

/-- The number of results where none is asked for. -/
def standardTopK : Nat := 4
/-- The threshold that accepts every score, negative ones too. -/
def acceptAll : Float := 0.0

def ofText (query : String) : SearchRequest := ⟨query, standardTopK, acceptAll, none⟩

/-- Refuses a request for no results and a threshold out of bounds. -/
def validate (r : SearchRequest) : Except Error Unit :=
  if r.topK = 0 then .error (.invalidInput .topK)
  else if 0.0 ≤ r.threshold ∧ r.threshold ≤ 1.0 then .ok ()
  else .error (.invalidInput (.threshold r.threshold))

end SearchRequest

/-- A document found, with its score and its distance from the query. The distance is among the
metadata too. -/
structure RankedResult where
  id : String
  content : String
  score : Float
  distance : Float
  metadata : Fields

end VectorStore
