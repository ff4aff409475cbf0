import MarketQuery.Query.Catalog.Conditions
import MarketQuery.Query.Join
import MarketQuery.Query.Ordering
import MarketQuery.Query.Ranking

namespace MarketQuery.Query.Catalog

open Sql (Fragment Statement Template)
open SchemaRole

def columns : Template :=
  ["SELECT
\tCOUNT(*) OVER() AS total_rows,
\titems.id,
\titems.blockchain_id,
\titems.search_is_collection_approved,
\tto_json(
\t\tCASE WHEN items.item_type IN ", wearableTypes, " THEN metadata_wearable
\t\tELSE metadata_emote
\t\tEND
\t) AS metadata,
\titems.image,
\titems.collection_id,
\titems.rarity,
\titems.item_type::text,
\titems.price,
\titems.available,
\titems.search_is_store_minter,
\titems.creator,
\titems.beneficiary,
\titems.created_at,
\titems.updated_at,
\titems.reviewed_at,
\titems.sold_at,
\titems.network,
\titems.first_listed_at,
\titems.urn,
\tLEAST(offchain_orders.min_order_amount_received, nfts_with_orders.min_price) AS min_listing_price,
\tnfts_with_orders.min_price AS min_onchain_price,
\tGREATEST(offchain_orders.max_order_amount_received, nfts_with_orders.max_price) AS max_listing_price,
\tnfts_with_orders.max_price AS max_onchain_price,
\tCOALESCE(nfts_with_orders.listings_count, 0) + COALESCE(offchain_orders.count, 0) AS listings_count,
\tCOALESCE(offchain_orders.count, 0) AS offchain_listings_count,
\tCOALESCE(nfts_with_orders.listings_count, 0) AS onchain_listings_count,
\tGREATEST(
\t\tROUND(EXTRACT(EPOCH FROM offchain_orders.max_created_at)),
\t\tnfts_with_orders.max_order_created_at
\t) AS max_order_created_at,"]

/-- A price that is the store's while the item can be minted within the bound, merged with the price
of orders, and that of orders alone otherwise. -/
def price (name comparison : String) (bound : Option String) (merged : String) : Fragment :=
  .text "CASE WHEN items.available > 0 AND items.search_is_store_minter = true" ++
    (match bound with
      | some b => .text (" AND " ++ comparison) ++ .bind (.text b) ++ .text "::numeric"
      | none => .empty) ++
    .text (" THEN " ++ merged ++ " ELSE nfts_with_orders." ++ name ++ " END AS " ++ name)

def projection (schemas : Schemas) (f : Filters.Catalog) (plan : JoinPlan) : Fragment :=
  columns.fill schemas ++
    (if plan.ownersCount then .text "\n\tnfts.owners_count," else .empty) ++
    .text "\n\t" ++
    price "min_price" "items.price >= " f.minPrice "LEAST(items.price, nfts_with_orders.min_price)" ++
    .text ",\n\t" ++
    price "max_price" "items.price <= " f.maxPrice
      "GREATEST(items.price, nfts_with_orders.max_price)"

def itemsTable : Template := ["\nFROM ", marketplace, ".item AS items"]

def sources (schemas : Schemas) (marketplaces : List String) (f : Filters.Catalog) :
    List Fragment :=
  Source.unifiedTrades schemas marketplaces ::
    match f.term? with
    | some term =>
      if f.ids.isEmpty then
        Ranking.sources schemas term ++ [Source.searchCandidates schemas f.network term]
      else []
    | none => []

def whereClause (f : Filters.Catalog) : Fragment :=
  .text ("WHERE " ++ baseCondition) ++
    .concat ((Condition.present conditions f).map fun (_, c) => .text separator ++ c)

def line (clause : Fragment) : Fragment := .text "\n" ++ clause

def body (schemas : Schemas) (marketplaces : List String) (f : Filters.Catalog) : Fragment :=
  let plan := JoinPlan.of f
  (withClause (sources schemas marketplaces f)).getD .empty ++
    line (projection schemas f plan) ++
    itemsTable.fill schemas ++
    .concat ((Join.all schemas f plan).map line) ++
    line (whereClause f) ++
    .concat ((Ordering.orderBy f plan.searchCandidates).toList.map line) ++
    .concat ((Ordering.pagination f.limit f.offset).toList.map line)

def statement (schemas : Schemas) (marketplaces : List String) (f : Filters.Catalog) :
    Filters.Checked Statement := do
  f.check
  return ⟨body schemas marketplaces f⟩

end MarketQuery.Query.Catalog
