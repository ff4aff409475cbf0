import MarketQuery.Filters.Catalog
import MarketQuery.Sql.Fragment

namespace MarketQuery.Query.Ordering

open Filters (SortDirection SortKey)
open Sql (Fragment)

/-- What items are sorted by. Items that are not on sale are only ever sorted by age. -/
def effective (f : Filters.Catalog) : SortKey × SortDirection :=
  (if f.isOnSale = some false then .newest else f.sortBy.getD .newest, f.sortDirection.getD .desc)

/-- The direction is only heeded for keys that are not known. -/
def key : SortKey → SortDirection → String
  | .newest, _ => "first_listed_at DESC NULLS LAST"
  | .mostExpensive, _ => "max_price DESC"
  | .recentlyListed, _ => "GREATEST(max_order_created_at, first_listed_at) DESC"
  | .recentlySold, _ => "sold_at DESC"
  | .cheapest, _ => "min_price ASC, first_listed_at DESC"
  | .other, direction => "first_listed_at " ++ direction.sql

/-- Ids together with a search term are the outcome of a ranking, and their order is kept. -/
def rankedIds (f : Filters.Catalog) : Option Fragment :=
  if f.term?.isSome && !f.ids.isEmpty then
    some (.text "array_position(" ++ .bind (.textArray f.ids) ++
      .text "::text[], items.id::text)")
  else none

def inlineRank (inlineSearch : Bool) : Option Fragment :=
  if inlineSearch then some (.text "search_candidates.word_similarity DESC") else none

def requested (f : Filters.Catalog) : Option Fragment :=
  if f.sortBy.isSome || f.sortDirection.isSome then
    let (sortBy, direction) := effective f
    some (.text (key sortBy direction))
  else none

def orderBy (f : Filters.Catalog) (inlineSearch : Bool) : Option Fragment :=
  (Fragment.join ", " ([rankedIds f, inlineRank inlineSearch, requested f].filterMap id)).map
    (.text "ORDER BY " ++ ·)

def pagination (limit offset : Option UInt32) : Option Fragment :=
  match limit, offset with
  | some l, some o =>
    some (.text ("LIMIT " ++ toString l.toNat ++ " OFFSET " ++ toString o.toNat))
  | _, _ => none

end MarketQuery.Query.Ordering
