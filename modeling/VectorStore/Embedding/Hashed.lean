import VectorStore.Embedding.Basic
import VectorStore.Text.Lowercase

/-!
An embedder without a model: features of the text are hashed into the components of a vector of
length one. Equal texts have equal vectors, and texts that share words or letter groups have
similar ones, but there is no meaning in them.
-/
namespace VectorStore.HashedEmbedder

/-- The 64-bit FNV-1a hash of the UTF-8 bytes of a text. -/
def hash (cs : List Char) : UInt64 :=
  (String.ofList cs).toUTF8.foldl
    (fun h byte => (h ^^^ byte.toUInt64) * 0x100000001B3) 0xCBF29CE484222325

/-- The stretches of three neighbouring characters. -/
def trigrams : List Char → List (List Char)
  | a :: b :: c :: rest => [a, b, c] :: trigrams (b :: c :: rest)
  | _ => []

/-- How many features of a text count. -/
def featureLimit : Nat := 4096

/-- The features of a text with their weights: its words count whole and its letter groups half,
without regard to case. -/
def features (text : String) : List (UInt64 × Float32) :=
  let lowered := Text.lower text.toList
  let words := (Text.words lowered).map fun word => (hash word, (1.0 : Float32))
  let groups := (trigrams lowered).map fun group => (hash group, (0.5 : Float32))
  (words ++ groups).take featureLimit

/-- Adds a feature to the component that its hash selects; the top bit selects the sign. -/
def addFeature (vector : Array Float32) (feature : UInt64 × Float32) : Array Float32 :=
  let sign : Float32 := if feature.1 >>> 63 == 0 then 1.0 else -1.0
  vector.modify (feature.1.toNat % vector.size) (· + sign * feature.2)

/-- Scales a vector to length one; a vector without length stays as it is. -/
def normalize (vector : List Float32) : List Float32 :=
  let norm := ((vector.map fun x => x * x).foldl (· + ·) (-0.0)).sqrt
  if norm > 0.0 then vector.map (· / norm) else vector

/-- The vector of a text that is not empty. -/
def vector (dimension : Nat) (text : String) : Embedding :=
  normalize ((features text).foldl addFeature (Array.replicate dimension 0.0)).toList

def embed (dimension : Nat) (text : String) : Except Error Embedding :=
  if text.isEmpty then .error (.invalidInput .emptyText) else .ok (vector dimension text)

/-- The dimension where none is asked for. -/
def standardDimension : Nat := 384
/-- The name of the model. -/
def modelName : String := "pseudo-hash"

/-- The embedder of a dimension; zero becomes one. -/
def ofDimension (dimension : Nat) : Embedder :=
  let dimension := if dimension = 0 then 1 else dimension
  .ofSingle dimension (embed dimension)

end VectorStore.HashedEmbedder
