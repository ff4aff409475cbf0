import MarketQuery.Query.Condition
import MarketQuery.Query.Source

namespace MarketQuery.Query

open Filters (Network)
open Sql (Fragment Statement Template)
open SchemaRole

namespace Ranking

def hasInfix (part : List Char) : List Char → Bool
  | [] => part.isEmpty
  | c :: cs => part.isPrefixOf (c :: cs) || hasInfix part cs

/-- Whether the term itself speaks of utility. Then every item with a utility text is a candidate.
-/
def mentionsUtility (term : String) : Bool :=
  hasInfix "utility".toList (Text.lowercase term).toList

/-- Likeness to the utility text, halved so as not to outweigh names and tags. -/
def utilityScore (term : String) : Fragment :=
  .text "similarity(utility.utility, " ++ .bind (.text term) ++ .text ") * 0.5"

def utilityHead : String :=
  "SELECT utility.item_id::text AS id, 'utility' AS match_type, '' AS word, "

def utilityFrom : Template :=
  [" AS word_similarity, items.first_listed_at
FROM ", builderServer, ".mv_builder_server_items_utility AS utility
LEFT JOIN ", marketplace, ".item AS items ON items.id = utility.item_id"]

def utilityBranch (schemas : Schemas) (term : String) : Fragment :=
  .text utilityHead ++
    (if mentionsUtility term then .text "GREATEST(" ++ utilityScore term ++ .text ", 0.01)"
      else utilityScore term) ++
    utilityFrom.fill schemas ++
    (if mentionsUtility term then .empty
      else .text "\nWHERE utility.utility % " ++ .bind (.text term))

def tagOrNameHead : String :=
  "SELECT
\titems.id::text AS id,
\tCASE WHEN builder_server_items.item_id IS NULL THEN 'name' ELSE 'tag' END AS match_type,
\tword.text AS word,
\tsimilarity(word.text, "

def tagOrNameFrom : Template :=
  [") AS word_similarity,
\titems.first_listed_at
FROM ", marketplace, ".item AS items
"]

def tagOrNameJoins : Template :=
  ["
LEFT JOIN (
\tSELECT metadata.id, COALESCE(wearable.name, emote.name) AS name
\tFROM ", marketplace, ".metadata AS metadata
\tLEFT JOIN ", marketplace, ".wearable AS wearable ON metadata.wearable_id = wearable.id AND metadata.item_type IN ", wearableTypes, "
\tLEFT JOIN ", marketplace, ".emote AS emote ON metadata.emote_id = emote.id AND metadata.item_type = 'emote_v1'
) AS metadata ON metadata.id = latest_metadata.latest_metadata_id
JOIN LATERAL (
\tSELECT unnest(string_to_array(metadata.name, ' ')) AS text
\tUNION
\tSELECT tag AS text FROM builder_server_items WHERE builder_server_items.item_id = items.id::text
) AS word ON TRUE
LEFT JOIN builder_server_items ON builder_server_items.item_id = items.id::text
WHERE word.text % "]

def tagOrNameBranch (schemas : Schemas) (network : Option Network) (term : String) : Fragment :=
  .text tagOrNameHead ++ .bind (.text term) ++ tagOrNameFrom.fill schemas ++
    Source.latestMetadataJoin network ++ tagOrNameJoins.fill schemas ++ .bind (.text term)

/-- Needs the newest metadata and the curated tags among the named tables. -/
def candidateUnion (schemas : Schemas) (network : Option Network) (term : String) : Fragment :=
  .text "((" ++ utilityBranch schemas term ++ .text ") UNION (" ++
    tagOrNameBranch schemas network term ++ .text ")) AS items_found"

def sources (schemas : Schemas) (term : String) : List Fragment :=
  [Source.latestMetadata schemas, Source.builderServerItems schemas term]

/-- The statement that ranks candidates on its own, for a term that is given. Ids that are asked for
keep their order in front. -/
def body (schemas : Schemas) (f : Filters.Catalog) (term : String) : Fragment :=
  (withClause (sources schemas term)).getD .empty ++
    .text "\nSELECT id, word_similarity::float8 AS word_similarity, match_type, word\nFROM " ++
    candidateUnion schemas f.network term ++
    .text "\nORDER BY " ++
    (if f.ids.isEmpty then .empty
      else .text "array_position(" ++ .bind (.textArray f.ids) ++ .text "::text[], id), ") ++
    .text "word_similarity DESC, first_listed_at DESC NULLS LAST"

def statement (schemas : Schemas) (f : Filters.Catalog) : Filters.Checked Statement :=
  match f.term? with
  | none => .error .nothingToSearch
  | some term => do
    Filters.requireEntries .ids f.ids
    return ⟨body schemas f term⟩

end Ranking

namespace Source

def searchCandidatesHead : String :=
  "search_candidates AS (
\tSELECT id, MAX(word_similarity) AS word_similarity
\tFROM "

def searchCandidatesTail : String :=
  "
\tGROUP BY id
)"

def searchCandidates (schemas : Schemas) (network : Option Network) (term : String) : Fragment :=
  .text searchCandidatesHead ++ Ranking.candidateUnion schemas network term ++
    .text searchCandidatesTail

end Source

end MarketQuery.Query
