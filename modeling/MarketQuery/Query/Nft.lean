import MarketQuery.Query.Nft.Conditions
import MarketQuery.Query.Source

namespace MarketQuery.Query.Nft

open Sql (Fragment Statement Template)
open SchemaRole

def rows : Template :=
  ["SELECT
\tCOUNT(*) OVER() AS count,
\tnft.id,
\tnft.contract_address,
\tnft.token_id,
\tnft.network,
\tnft.created_at,
\tnft.token_uri AS url,
\tnft.updated_at,
\tnft.sold_at,
\tnft.urn,
\taccount.address AS owner,
\tnft.image,
\tnft.issued_id,
\tnft.item_id,
\tnft.category,
\tCOALESCE(wearable.rarity, emote.rarity) AS rarity,
\tCOALESCE(wearable.name, emote.name, land_data.\"name\", ens.subdomain) AS name,
\tparcel.x,
\tparcel.y,
\twearable.body_shapes,
\tnft.item_type,
\temote.loop,
\temote.has_sound,
\temote.has_geometry,
\testate.estate_parcels,
\testate.size AS size,
\tparcel.parcel_estate_token_id,
\tparcel.parcel_estate_name,
\tparcel.estate_id AS parcel_estate_id,
\tCOALESCE(wearable.description, emote.description, land_data.description) AS description,
\ttrades.id AS trade_id,
\ttrades.assets -> 'received' ->> 'amount' AS trade_price
FROM ", marketplace, ".nft AS nft
LEFT JOIN ", marketplace, ".metadata AS metadata ON nft.metadata_id = metadata.id
LEFT JOIN ", marketplace, ".wearable AS wearable ON metadata.wearable_id = wearable.id
LEFT JOIN ", marketplace, ".emote AS emote ON metadata.emote_id = emote.id
LEFT JOIN (
\tSELECT par.*, par_est.token_id AS parcel_estate_token_id, est_data.name AS parcel_estate_name
\tFROM ", marketplace, ".parcel AS par
\tLEFT JOIN ", marketplace, ".estate AS par_est ON par.estate_id = par_est.id
\tLEFT JOIN ", marketplace, ".data AS est_data ON par_est.data_id = est_data.id
) AS parcel ON nft.id = parcel.id
LEFT JOIN (
\tSELECT est.id, est.token_id, est.size, est.data_id, array_agg(json_build_object('x', est_parcel.x, 'y', est_parcel.y)) AS estate_parcels
\tFROM ", marketplace, ".estate AS est
\tLEFT JOIN ", marketplace, ".parcel AS est_parcel ON est.id = est_parcel.estate_id
\tGROUP BY est.id, est.token_id, est.size, est.data_id
) AS estate ON nft.id = estate.id
LEFT JOIN ", marketplace, ".data AS land_data ON (estate.data_id = land_data.id OR parcel.id = land_data.id)
LEFT JOIN ", marketplace, ".ens AS ens ON ens.id = nft.ens_id
LEFT JOIN ", marketplace, ".account AS account ON nft.owner_id = account.id
LEFT JOIN ", marketplace, ".item AS item ON item.id = nft.item_id
LEFT JOIN unified_trades AS trades ON trades.type = 'public_nft_order'
\tAND trades.assets -> 'sent' ->> 'token_id' = nft.token_id::text
\tAND trades.assets -> 'sent' ->> 'contract_address' = nft.contract_address
\tAND trades.status = 'open'
\tAND trades.signer = account.address"]

def whereClause (f : Filters.Nft) : Fragment :=
  match Fragment.join separator ((Condition.present conditions f).map (·.2)) with
  | some cs => .text "\nWHERE " ++ cs
  | none => .empty

def defaultPageSize : Nat := 100

/-- A page of no tokens counts as one that was not asked for. -/
def pageSize (f : Filters.Nft) : Nat :=
  match f.first with
  | some n => if 0 < n then n.toNat else defaultPageSize
  | none => defaultPageSize

def pageStart (f : Filters.Nft) : Nat := (f.skip.map UInt32.toNat).getD 0

def body (schemas : Schemas) (marketplaces : List String) (f : Filters.Nft) : Fragment :=
  (withClause [Source.unifiedTrades schemas marketplaces]).getD .empty ++
    .text "\n" ++ rows.fill schemas ++
    whereClause f ++
    .text ("\nLIMIT " ++ toString (pageSize f) ++ " OFFSET " ++ toString (pageStart f))

def statement (schemas : Schemas) (marketplaces : List String) (f : Filters.Nft) :
    Filters.Checked Statement := do
  f.check
  return ⟨body schemas marketplaces f⟩

end MarketQuery.Query.Nft
