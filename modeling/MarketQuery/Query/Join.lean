import MarketQuery.Filters.Catalog
import MarketQuery.Query.Source

namespace MarketQuery.Query

open Sql (Fragment Template)
open SchemaRole

structure JoinPlan where
  /-- How many owners an item has. This is only shown of items that are not on sale. -/
  ownersCount : Bool
  /-- The ranking of a search that has no ids to choose from yet. -/
  searchCandidates : Bool
  deriving DecidableEq

def JoinPlan.of (f : Filters.Catalog) : JoinPlan where
  ownersCount := f.isOnSale = some false
  searchCandidates := f.searchesInline

namespace Join

def ownersText : Template :=
  ["LEFT JOIN (
\tSELECT item, COUNT(DISTINCT owner) AS owners_count
\tFROM ", marketplace, ".nft AS nfts
\tGROUP BY nfts.item
) AS nfts ON nfts.item = items.id"]

def owners (schemas : Schemas) : Fragment := ownersText.fill schemas

/-- The time that an order runs out is in milliseconds, or in seconds if it is an old one; the
number of digits tells which. Times beyond what the database can hold are left out. -/
def ordersHead : Template :=
  ["LEFT JOIN (
\tSELECT
\t\torders.item_id,
\t\tCOUNT(orders.id) AS listings_count,
\t\tMIN(orders.price) AS min_price,
\t\tMAX(orders.price) AS max_price,
\t\tMAX(orders.created_at) AS max_order_created_at
\tFROM ", marketplace, ".order AS orders
\tWHERE orders.status = 'open'
\t\tAND orders.expires_at < 253378408747000
\t\tAND ((LENGTH(orders.expires_at::text) = 13 AND TO_TIMESTAMP(orders.expires_at / 1000.0) > NOW())
\t\t\tOR (LENGTH(orders.expires_at::text) = 10 AND TO_TIMESTAMP(orders.expires_at) > NOW()))"]

def ordersTail : String :=
  "
\tGROUP BY orders.item_id
) AS nfts_with_orders ON nfts_with_orders.item_id = items.id"

def orderBound (comparison : String) : Option String → Fragment
  | some bound => .text comparison ++ .bind (.text bound) ++ .text "::numeric"
  | none => .empty

/-- The open orders of each item. With price bounds, only orders within them count. -/
def orders (schemas : Schemas) (f : Filters.Catalog) : Fragment :=
  ordersHead.fill schemas ++
    orderBound "\n\t\tAND orders.price >= " f.minPrice ++
    orderBound "\n\t\tAND orders.price <= " f.maxPrice ++
    .text ordersTail

def metadataText : Template :=
  ["LEFT JOIN (
\tSELECT
\t\tmetadata.id AS metadata_id,
\t\twearable.description,
\t\twearable.category,
\t\twearable.body_shapes,
\t\twearable.rarity,
\t\twearable.name
\tFROM ", marketplace, ".wearable AS wearable
\tJOIN ", marketplace, ".metadata AS metadata ON metadata.wearable_id = wearable.id
) AS metadata_wearable ON metadata_wearable.metadata_id = items.metadata_id AND (items.item_type = 'wearable_v1' OR items.item_type = 'wearable_v2' OR items.item_type = 'smart_wearable_v1')
LEFT JOIN (
\tSELECT
\t\tmetadata.id AS metadata_id,
\t\temote.description,
\t\temote.category,
\t\temote.body_shapes,
\t\temote.rarity,
\t\temote.name,
\t\temote.loop,
\t\temote.has_sound,
\t\temote.has_geometry
\tFROM ", marketplace, ".emote AS emote
\tJOIN ", marketplace, ".metadata AS metadata ON metadata.emote_id = emote.id
) AS metadata_emote ON metadata_emote.metadata_id = items.metadata_id AND items.item_type = 'emote_v1'"]

def metadata (schemas : Schemas) : Fragment := metadataText.fill schemas

def offchainOrders : String :=
  "LEFT JOIN (
\tSELECT
\t\tCOUNT(id) AS count,
\t\tcontract_address_sent,
\t\tMIN(order_amount_received) AS min_order_amount_received,
\t\tMAX(order_amount_received) AS max_order_amount_received,
\t\tMIN(item_amount) AS item_amount,
\t\tMAX(token_id) AS token_id,
\t\tMAX(item_id) AS item_id,
\t\tMAX(created_at) AS max_created_at,
\t\tjson_agg(assets) AS aggregated_assets
\tFROM unified_trades
\tWHERE status = 'open'
\tGROUP BY contract_address_sent
) AS offchain_orders ON offchain_orders.contract_address_sent = items.collection_id"

def searchCandidates : String :=
  "JOIN search_candidates ON search_candidates.id = items.id::text"

def all (schemas : Schemas) (f : Filters.Catalog) (plan : JoinPlan) : List Fragment :=
  (if plan.ownersCount then [owners schemas] else []) ++
    [orders schemas f, metadata schemas, .text offchainOrders] ++
    (if plan.searchCandidates then [.text searchCandidates] else [])

end Join

end MarketQuery.Query
