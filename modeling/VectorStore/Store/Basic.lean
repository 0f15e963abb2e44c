import VectorStore.Executor
import VectorStore.Row
import VectorStore.Store.Config

/-!
Stores: documents in one table, one record a document under its id, with a vector index over the
embedding field. `Store.build` checks the settings once; after that the names of a store are
identifiers. Writes check every document before the first query is sent.
-/
namespace VectorStore

/-- A store with checked settings. -/
structure Store where
  index : Ident
  table : Ident
  contentField : Ident
  embeddingField : Ident
  vectorType : VectorType
  distance : Distance
  algorithm : Algorithm
  searchBreadth : Nat
  upsertMode : UpsertMode
  initializeSchema : Bool
  efc : Option Nat
  m : Option Nat
  embedder : Embedder
  /-- Groups the texts that are embedded for a write. -/
  batching : Grouping
  /-- Writes a filter as a condition. -/
  writeFilter : Filter → Except Error String

namespace Store

/-- The parameter that the query vector is bound to. -/
def queryParam : Ident := ⟨"__embedding", by decide⟩
def scoreAlias : Ident := ⟨scoreColumn, by decide⟩
def distanceAlias : Ident := ⟨distanceColumn, by decide⟩

/-! ## Building -/

/-- Checks the settings of a store. -/
def configure (c : StoreConfig) (embedder : Embedder) (batching : Grouping)
    (writeFilter : Filter → Except Error String) : Except Error Store := do
  if c.searchBreadth = 0 then
    throw (.invalidInput .searchBreadth)
  let contentField ← Ident.ofString c.contentField
  let embeddingField ← Ident.ofString c.embeddingField
  if contentField = embeddingField then
    throw (.invalidInput (.sameFields contentField.text))
  if contentField.text = "id" ∨ embeddingField.text = "id" then
    throw (.invalidInput .reservedField)
  let index ← Ident.ofString c.indexName
  let table ← Ident.ofString c.tableName
  return {
    index := index
    table := table
    contentField := contentField
    embeddingField := embeddingField
    vectorType := c.vectorType
    distance := c.distance
    algorithm := c.algorithm
    searchBreadth := c.searchBreadth
    upsertMode := c.upsertMode
    initializeSchema := c.initializeSchema
    efc := c.efc
    m := c.m
    embedder := embedder
    batching := batching
    writeFilter := writeFilter }

def schemaFailure (s : Store) (cause : String) : Error := .schemaInitFailure s.index.text cause

/-- The definition of the store's index, which needs the dimension of the model. -/
def indexDefinition (s : Store) : Except Error IndexDefinition :=
  if s.embedder.dimension = 0 then
    .error (s.schemaFailure "embedder does not report its dimensions")
  else
    let graph := s.algorithm = .hnsw
    .ok {
      ifNotExists := true
      name := s.index
      table := s.table
      field := s.embeddingField
      algorithm := s.algorithm
      dimension := s.embedder.dimension
      distance := s.distance
      vectorType := s.vectorType
      efc := if graph then s.efc else none
      m := if graph then s.m else none }

variable {σ : Type}

/-- Defines the index, if the store is set to; may be repeated. -/
def ensureSchema (s : Store) (x : Executor σ) : Run σ Unit :=
  if s.initializeSchema then do
    let definition ← Run.ofExcept s.indexDefinition
    tryCatch (x.runChecked [.defineIndex definition]) fun e => throw (s.schemaFailure e.message)
  else pure ()

/-- A store with checked settings whose index is defined, if it is set to. -/
def build (c : StoreConfig) (embedder : Embedder) (batching : Grouping)
    (writeFilter : Filter → Except Error String) (x : Executor σ) : Run σ Store := do
  let s ← Run.ofExcept (configure c embedder batching writeFilter)
  s.ensureSchema x
  return s

/-! ## Writing -/

/-- Refuses a vector that is empty, has a component that is no finite number, or has another
dimension than the model reports. -/
def checkVector (s : Store) (owner : VectorOwner) (v : Embedding) : Except Error Unit :=
  let refuse (fault : VectorFault) : Except Error Unit :=
    .error (.invalidInput (.vector owner fault))
  if v.isEmpty then refuse .empty
  else
    match v.findIdx? fun x => !singleFinite x with
    | some index => refuse (.notFinite index)
    | none =>
      if 0 < s.embedder.dimension ∧ v.length ≠ s.embedder.dimension then
        refuse (.dimension v.length s.embedder.dimension)
      else .ok ()

/-- The names that metadata may not use. -/
def reservedKeys (s : Store) : List String :=
  ["id", scoreColumn, distanceColumn, distanceKeyName, s.contentField.text, s.embeddingField.text]

/-- Refuses a document whose metadata uses a reserved name. -/
def checkMetadata (s : Store) (d : Document) : Except Error Unit :=
  match d.metadata.keys.find? fun key => s.reservedKeys.contains key with
  | some key => .error (.invalidInput (.reservedMetadata key d.id))
  | none => .ok ()

/-- Refuses documents by the first whose metadata uses a reserved name. -/
def checkAllMetadata (s : Store) : List Document → Except Error Unit
  | [] => .ok ()
  | d :: rest =>
    match s.checkMetadata d with
    | .error e => .error e
    | .ok () => s.checkAllMetadata rest

/-- The texts that need a vector. -/
def missingTexts (documents : List Document) : List String :=
  (documents.filter (·.embedding.isNone)).map (·.content)

/-- The groups of texts that need a vector: none without a text, else those of the batching. -/
def grouping (s : Store) : Grouping := fun texts =>
  if texts.isEmpty then .ok [] else s.batching texts

/-- The record of a document with its vector. -/
def recordBody (s : Store) (d : Document) (v : Embedding) : Fields :=
  ((SortedMap.empty.insert s.contentField.text (.string d.content)).insert
    s.embeddingField.text (.array (v.map Json.ofSingle))).overlay d.metadata

/-- The records of documents; those without a vector take the next computed one. -/
def records (s : Store) (computed : List Embedding) :
    List Document → Except Error (List (RecordId × Fields))
  | [] => .ok []
  | d :: rest =>
    let next? : Option (Embedding × List Embedding) := match d.embedding, computed with
      | some v, computed => some (v, computed)
      | none, v :: computed => some (v, computed)
      | none, [] => none
    match next? with
    | none => .error (.embedding .tooFew)
    | some (v, computed) =>
      match s.checkVector (.document d.id) v with
      | .error e => .error e
      | .ok () =>
        match s.records computed rest with
        | .error e => .error e
        | .ok rs => .ok ((⟨s.table, d.id⟩, s.recordBody d v) :: rs)

/-- Checks documents, embeds those without a vector, and puts their records together. -/
def prepare (s : Store) (documents : List Document) : Except Error (List (RecordId × Fields)) :=
  match s.checkAllMetadata documents with
  | .error e => .error e
  | .ok () =>
    match s.embedder.embedAll s.grouping (missingTexts documents) with
    | .error e => .error e
    | .ok computed => s.records computed documents

/-- The groups of texts that preparing documents hands to the model. -/
def submittedGroups (s : Store) (documents : List Document) : List (List String) :=
  match s.checkAllMetadata documents with
  | .error _ => []
  | .ok () =>
    match Embedder.groups s.grouping (missingTexts documents) with
    | .error _ => []
    | .ok groups => s.embedder.submitted groups

/-- Writes records one query each, up to the first that fails. -/
def writeEach (s : Store) (x : Executor σ) : List (RecordId × Fields) → Run σ Unit
  | [] => pure ()
  | (target, data) :: rest => do
    x.upsert target s.upsertMode data
    s.writeEach x rest

/-- Writes documents one after another; those before a failure stay written. -/
def add (s : Store) (x : Executor σ) (documents : List Document) : Run σ Unit := do
  let rs ← Run.ofExcept (s.prepare documents)
  s.writeEach x rs

/-- Writes documents in one transaction, all or none. -/
def addBatched (s : Store) (x : Executor σ) (documents : List Document) : Run σ Unit :=
  if documents.isEmpty then pure ()
  else do
    let rs ← Run.ofExcept (s.prepare documents)
    let writes := rs.map fun (target, data) => Statement.upsert target s.upsertMode data
    x.runChecked (Query.transaction writes)

/-- Removes documents by id. -/
def delete (s : Store) (x : Executor σ) (ids : List String) : Run σ Unit :=
  x.delete (ids.map fun id => ⟨s.table, id⟩)

/-! ## Searching -/

/-- The score of a search: the cosine similarity, or a value that falls with the distance. -/
def score (s : Store) : Score :=
  if s.distance = .cosine then .cosine s.embeddingField queryParam else .inverseDistance

/-- The selection of a search, given the written filter. -/
def selection (s : Store) (topK : Nat) (filter : Option WrittenFilter) : Selection where
  projections := [.all, .score s.score scoreAlias, .score .distance distanceAlias]
  omitted := [s.embeddingField]
  table := s.table
  condition := some {
    nearest := some {
      field := s.embeddingField
      count := topK
      breadth := if s.algorithm = .hnsw then some s.searchBreadth else none
      param := queryParam }
    filter := filter }
  orderBy := some ⟨scoreAlias, true⟩
  limit := some topK

/-- Writes the filter of a request, if there is one. -/
def writtenFilter (s : Store) : Option Filter → Except Error (Option WrittenFilter)
  | none => .ok none
  | some f => (s.writeFilter f).map fun text => some ⟨f, text⟩

/-- The query of a search for a vector. -/
def vectorQuery (s : Store) (v : Embedding) (r : SearchRequest) : Except Error Query := do
  r.validate
  s.checkVector .query v
  let filter ← s.writtenFilter r.filter
  return [.bind queryParam v, .select (s.selection r.topK filter)]

/-- The query of a search for a text. -/
def textQuery (s : Store) (r : SearchRequest) : Except Error Query := do
  r.validate
  let v ← s.embedder.embed r.query
  s.vectorQuery v r

def rowLayout (s : Store) : RowLayout := ⟨s.contentField.text, s.embeddingField.text⟩

/-- The results of a response to a search: those that reach the threshold, if there is one, and of
these at most as many as asked for. -/
def readResults (s : Store) (r : SearchRequest) (response : Response) :
    Except Error (List RankedResult) := do
  let rows ← (response.take 1).1
  let results ← (s.rowLayout.results rows).mapError Error.malformedResult
  let kept := if r.threshold > SearchRequest.acceptAll then
      results.filter fun result => decide (r.threshold ≤ result.score)
    else results
  return kept.take r.topK

/-- Runs the query of a search, if there is one, and reads its results. -/
def runSearch (s : Store) (x : Executor σ) (r : SearchRequest) (q : Except Error Query) :
    Run σ (List RankedResult) := do
  let q ← Run.ofExcept q
  let response ← x q
  Run.ofExcept (s.readResults r response)

/-- Searches for a text. -/
def search (s : Store) (x : Executor σ) (r : SearchRequest) : Run σ (List RankedResult) :=
  s.runSearch x r (s.textQuery r)
/-- Searches for a vector. -/
def searchVector (s : Store) (x : Executor σ) (v : Embedding) (r : SearchRequest) :
    Run σ (List RankedResult) :=
  s.runSearch x r (s.vectorQuery v r)

end Store
end VectorStore
