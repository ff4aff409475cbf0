import MarketQuery.Config
import MarketQuery.Query.Compiler
import MarketQuery.Storage

namespace MarketQuery

open Filters (Checked Network)
open Json (Value)
open Query (Compiler)

inductive ServiceError where
  /-- The request is at fault. -/
  | invalidRequest (detail : String)
  /-- The database is. -/
  | storage (detail : String)

namespace ServiceError

def detail : ServiceError → String
  | .invalidRequest detail => detail
  | .storage detail => detail

def message : ServiceError → String
  | .invalidRequest detail => "Invalid request: " ++ detail
  | .storage detail => "Storage error: " ++ detail

def ofViolation (v : Filters.Violation) : ServiceError := .invalidRequest v.message

def ofStorage : StorageError → ServiceError
  | .vacuous => .invalidRequest StorageError.vacuousDetail
  | e => .storage e.message

end ServiceError

def Query.Compiler.ofConfig (c : Config) : Compiler := ⟨c.schemas, c.marketplace.contracts⟩

namespace Service

def firstOccurrences (seen : List String) : List String → List String
  | [] => []
  | s :: ss =>
    if seen.contains s then firstOccurrences seen ss else s :: firstOccurrences (s :: seen) ss

/-- Asks for the candidates by their ids, each at its best place. -/
def withRankedIds (f : Filters.Catalog) (candidates : List Candidate) : Filters.Catalog :=
  { f with ids := firstOccurrences [] (candidates.map Candidate.id) }

def answer (statement : Checked Sql.Statement)
    (fetch : Sql.Statement → Dialogue (Except StorageError α)) :
    Dialogue (Except ServiceError α) :=
  match statement with
  | .error v => .done (.error (.ofViolation v))
  | .ok s => do return (← fetch s).mapError .ofStorage

def list (c : Compiler) (f : Filters.Catalog) : Dialogue (Except ServiceError Page) :=
  answer (c.catalog f) (Storage.fetchPage · Storage.catalogTotal)

def search (c : Compiler) (f : Filters.Catalog) : Dialogue (Except ServiceError (List Candidate)) :=
  answer (c.search f) Storage.fetchCandidates

/-- A page of catalog items. A search that finds nothing is an empty page, and no page is fetched.
-/
def catalog (c : Compiler) (f : Filters.Catalog) : Dialogue (Except ServiceError Page) :=
  if f.searchesInline then do
    match ← search c f with
    | .error e => return .error e
    | .ok [] => return .ok {}
    | .ok candidates => list c (withRankedIds f candidates)
  else list c f

def nfts (c : Compiler) (f : Filters.Nft) : Dialogue (Except ServiceError Page) :=
  answer (c.nfts f) (Storage.fetchPage · Storage.nftTotal)

def nftByTokenId (c : Compiler) (contractAddress tokenId : String) (network : Network) :
    Dialogue (Except ServiceError (Option Value)) :=
  answer (c.nftByTokenId contractAddress tokenId network) fun s => do
    return (← Storage.fetchRows s).map List.head?

end Service

end MarketQuery
