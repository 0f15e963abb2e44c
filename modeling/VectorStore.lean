import VectorStore.Main
import VectorStore.Response.Payload
import VectorStore.Proofs.Database.Transactions
import VectorStore.Proofs.Filter.Chain
import VectorStore.Proofs.Filter.Reading
import VectorStore.Proofs.Filter.Truth
import VectorStore.Proofs.Filter.Refusals
import VectorStore.Proofs.Filter.Viability
import VectorStore.Proofs.Filter.ReadBack
import VectorStore.Proofs.Statement
import VectorStore.Proofs.Store.History
import VectorStore.Proofs.Store.Search
import VectorStore.Proofs.Store.Indexes
import VectorStore.Proofs.Store.SearchText
import VectorStore.Proofs.Store.Answers
import VectorStore.Proofs.Database.Invariants
import VectorStore.Proofs.Store.Insertion
import VectorStore.Proofs.Store.Permutation
import VectorStore.Proofs.Store.Protocol
import VectorStore.Proofs.Store.SearchProtocol
import VectorStore.Proofs.Filter.Integers
import VectorStore.Proofs.Response
import VectorStore.Proofs.Database.Ordering
import VectorStore.Proofs.Database.ZeroDistance
import VectorStore.Proofs.Filter.Coverage
import VectorStore.Proofs.Number.Widening
import VectorStore.Proofs.Store.OwnVector
