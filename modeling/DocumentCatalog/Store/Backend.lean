import DocumentCatalog.Pool.Run
import DocumentCatalog.Store.Directory

/-!
Stores that can be connected to and queried.
-/

namespace DocumentCatalog
namespace Store

/-- A connector whose handles answer queries. The description stands in messages. -/
structure Backend (World Handle : Type) extends Connector World Handle where
  description : String
  find : Handle → String → Filter.Predicate → Query.Options → Except Failure (List Json)

/-- The name of a store that keeps its documents in memory. -/
def memoryName : String := "memory"

namespace Backend

variable {World Handle : Type}

/-- A pool for the store, without a handle yet. -/
def pool (b : Backend World Handle) : Pool Handle :=
  { description := b.description }

/-- Answers from collections, however they are connected to. -/
def answering (description : String) (connect : World → Except Failure Collections) :
    Backend World Collections where
  description
  connect world := (connect world, world)
  ping _ world := (.ok (), world)
  find collections name p options := .ok (collections.find name p options)

/-- Loads the collections of a directory anew with each connection. -/
def directory (path : String) : Backend Node Collections :=
  answering (memoryName ++ ":" ++ path) fun node => (load path node).mapError LoadError.failure

/-- Always the same collections. -/
def constant (description : String) (collections : Collections) : Backend World Collections :=
  answering description fun _ => .ok collections

/-- Never connects. -/
def unreachable (description reason : String) : Backend World Collections :=
  answering description fun _ => .error { reason }

/-- Connects, but answers no query. -/
def failing (description reason : String) : Backend World Unit where
  description
  connect world := (.ok (), world)
  ping _ world := (.ok (), world)
  find _ _ _ _ := .error { reason }

end Backend
end Store
end DocumentCatalog
