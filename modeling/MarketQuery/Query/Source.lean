import MarketQuery.Filters.Vocabulary
import MarketQuery.Sql.Template
import MarketQuery.Text.Normal

namespace MarketQuery.Query

open Filters (Network)
open Sql (Fragment Template)
open SchemaRole

def withClause (sources : List Fragment) : Option Fragment :=
  (Fragment.join ",\n" sources).map (.text "WITH " ++ ·)

namespace Source

def latestMetadataText : Template :=
  ["latest_metadata AS (
\tSELECT DISTINCT ON (wearable_id) wearable_id AS item_id, id AS latest_metadata_id, item_type, wearable_id, emote_id
\tFROM ", marketplace, ".metadata
\tORDER BY wearable_id DESC
)"]

def latestMetadata (schemas : Schemas) : Fragment := latestMetadataText.fill schemas

/-- Items of Ethereum name their metadata; on every other network metadata carries the item's id. -/
def latestMetadataJoin : Option Network → Fragment
  | some .ethereum =>
    .text "LEFT JOIN latest_metadata ON latest_metadata.item_id = items.metadata"
  | _ => .text "LEFT JOIN latest_metadata ON latest_metadata.item_id = items.id"

def builderServerItemsHead : Template :=
  ["builder_server_items AS (
\tSELECT item_id, tag
\tFROM ", builderServer, ".mv_builder_server_items
\tWHERE LOWER(tag) = LOWER("]

def builderServerItemsTail : String := "))"

def builderServerItems (schemas : Schemas) (term : String) : Fragment :=
  builderServerItemsHead.fill schemas ++ .bind (.text term) ++ .text builderServerItemsTail

def unifiedTradesHead : Template :=
  ["unified_trades AS (
\tSELECT
\t\tt.id,
\t\tt.type,
\t\tt.signer,
\t\tt.created_at,
\t\tMAX(CASE WHEN assets_with_values.direction = 'sent' THEN assets_with_values.contract_address END) AS contract_address_sent,
\t\tMAX(CASE WHEN t.type = 'public_nft_order' AND assets_with_values.direction = 'received' THEN assets_with_values.amount END) AS order_amount_received,
\t\tMIN(CASE WHEN t.type = 'public_item_order' AND assets_with_values.direction = 'received' THEN assets_with_values.amount END) AS item_amount,
\t\tMAX(CASE WHEN t.type = 'public_item_order' THEN assets_with_values.item_id END) AS item_id,
\t\tMAX(CASE WHEN t.type = 'public_nft_order' THEN assets_with_values.token_id END) AS token_id,
\t\tjson_object_agg(
\t\t\tassets_with_values.direction,
\t\t\tjson_build_object(
\t\t\t\t'contract_address', assets_with_values.contract_address,
\t\t\t\t'direction', assets_with_values.direction,
\t\t\t\t'beneficiary', assets_with_values.beneficiary,
\t\t\t\t'extra', assets_with_values.extra,
\t\t\t\t'token_id', assets_with_values.token_id,
\t\t\t\t'item_id', assets_with_values.item_id,
\t\t\t\t'amount', assets_with_values.amount,
\t\t\t\t'creator', assets_with_values.creator,
\t\t\t\t'owner', assets_with_values.owner_id
\t\t\t)
\t\t) AS assets,
\t\tCASE
\t\t\tWHEN trade_status.status = 'cancelled' THEN 'cancelled'
\t\t\tWHEN COALESCE(signer_signature_index.index, 0) != (t.checks ->> 'signerSignatureIndex')::int THEN 'cancelled'
\t\t\tWHEN COALESCE(contract_signature_index.index, 0) != (t.checks ->> 'contractSignatureIndex')::int THEN 'cancelled'
\t\t\tWHEN trade_status.uses >= (t.checks ->> 'uses')::int THEN 'sold'
\t\t\tELSE 'open'
\t\tEND AS status
\tFROM ", trades, ".trades AS t
\tJOIN (
\t\tSELECT
\t\t\tta.id,
\t\t\tta.trade_id,
\t\t\tta.contract_address,
\t\t\tta.direction,
\t\t\tta.beneficiary,
\t\t\tta.extra,
\t\t\terc721_asset.token_id,
\t\t\titem_asset.item_id,
\t\t\terc20_asset.amount,
\t\t\titem.creator,
\t\t\tnft.owner_id
\t\tFROM ", trades, ".trade_assets AS ta
\t\tLEFT JOIN ", trades, ".trade_assets_erc721 AS erc721_asset ON ta.id = erc721_asset.asset_id
\t\tLEFT JOIN ", trades, ".trade_assets_erc20 AS erc20_asset ON ta.id = erc20_asset.asset_id
\t\tLEFT JOIN ", trades, ".trade_assets_item AS item_asset ON ta.id = item_asset.asset_id
\t\tLEFT JOIN ", marketplace, ".item AS item ON (ta.contract_address = item.collection_id AND item_asset.item_id = item.blockchain_id::text)
\t\tLEFT JOIN ", marketplace, ".nft AS nft ON (ta.contract_address = nft.contract_address AND erc721_asset.token_id = nft.token_id::text)
\t) AS assets_with_values ON t.id = assets_with_values.trade_id
\tLEFT JOIN ", squidTrades, ".trade AS trade_status ON trade_status.signature = t.hashed_signature
\tLEFT JOIN ", squidTrades, ".signature_index AS signer_signature_index ON LOWER(signer_signature_index.address) = LOWER(t.signer)
\tLEFT JOIN (
\t\tSELECT *
\t\tFROM ", squidTrades, ".signature_index AS signature_index
\t\tWHERE LOWER(signature_index.address) = ANY("]

def unifiedTradesTail : String :=
  ")
\t) AS contract_signature_index ON t.network = contract_signature_index.network
\tGROUP BY t.id, t.type, t.signer, t.created_at, t.checks, trade_status.status, trade_status.uses, contract_signature_index.index, signer_signature_index.index
)"

/-- One row for each trade made off the chain, with what is traded and whether it is still open. The
signature index of each of the contracts `marketplaces` can cancel all trades of its network. -/
def unifiedTrades (schemas : Schemas) (marketplaces : List String) : Fragment :=
  unifiedTradesHead.fill schemas ++ .bind (.textArray (marketplaces.map Text.lowercase)) ++
    .text unifiedTradesTail

end Source

end MarketQuery.Query
