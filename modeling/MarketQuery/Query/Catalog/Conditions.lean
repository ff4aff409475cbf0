import MarketQuery.Query.Condition

namespace MarketQuery.Query.Catalog

open Condition (flag twice value values)
open Filters (isSet)
open Sql (Fragment Param)
open Vocabulary (word)

/-- Only items of approved collections are ever listed. -/
def baseCondition : String := "items.search_is_collection_approved = true"

/-- Land and names are no catalog items, so their categories do not restrict the items. -/
def category (f : Filters.Catalog) : Option Fragment :=
  match f.category with
  | some .wearable =>
    if isSet f.isWearableSmart then some (.text ("items.item_type = " ++ smartWearableType))
    else some (.text ("items.item_type IN " ++ wearableTypes))
  | some .emote => some (.text ("items.item_type = " ++ emoteType))
  | _ => none

def creator (f : Filters.Catalog) : Option Fragment :=
  match f.creators with
  | [] => none
  | [address] => some (.text "items.creator = " ++ .bind (.text address))
  | addresses => some (.text "items.creator = ANY(" ++ .bind (.textArray addresses) ++ .text ")")

/-- On sale is what the store mints or an order offers. -/
def isOnSale (f : Filters.Catalog) : Option Fragment :=
  f.isOnSale.map fun
    | true => .text "((items.search_is_store_minter = true AND items.available > 0) OR nfts_with_orders.listings_count IS NOT NULL)"
    | false => .text "((items.search_is_store_minter = false OR items.available = 0) AND nfts_with_orders.listings_count IS NULL)"

def conditions : List (Condition Filters.Catalog) :=
  [⟨"category", category⟩,
   ⟨"rarities", fun f => values "items.rarity = ANY(" (f.rarities.map word)⟩,
   ⟨"creator", creator⟩,
   ⟨"isSoldOut", fun f => flag (isSet f.isSoldOut) "items.available = 0"⟩,
   ⟨"isOnSale", isOnSale⟩,
   ⟨"isWearableHead", fun f =>
     flag (isSet f.isWearableHead) "items.search_is_wearable_head = true"⟩,
   ⟨"isWearableAccessory", fun f =>
     flag (isSet f.isWearableAccessory) "items.search_is_wearable_accessory = true"⟩,
   ⟨"wearableCategory", fun f =>
     value "metadata_wearable.category = " "" (f.wearableCategory.map (.text <| word ·))⟩,
   ⟨"wearableGenders", fun f =>
     values "items.search_wearable_body_shapes @> (" (Filters.bodyShapes f.wearableGenders)⟩,
   ⟨"emoteCategory", fun f =>
     value "metadata_emote.category = " "" (f.emoteCategory.map (.text <| word ·))⟩,
   ⟨"emotePlayMode", fun f =>
     value "metadata_emote.loop = " "" ((Filters.singlePlayMode f.emotePlayMode).map .bool)⟩,
   ⟨"emoteGenders", fun f =>
     values "items.search_emote_body_shapes @> (" (Filters.bodyShapes f.emoteGenders)⟩,
   ⟨"contractAddresses", fun f => values "items.collection_id = ANY(" f.contractAddresses⟩,
   ⟨"minPrice", fun f =>
     twice "(nfts_with_orders.min_price >= " "::numeric OR (items.price >= "
       "::numeric AND items.available > 0 AND items.search_is_store_minter = true))"
       (f.minPrice.map .text)⟩,
   ⟨"maxPrice", fun f =>
     twice "(nfts_with_orders.max_price <= " "::numeric OR (items.price <= "
       "::numeric AND items.available > 0 AND items.search_is_store_minter = true))"
       (f.maxPrice.map .text)⟩,
   ⟨"onlyListing", fun f =>
     flag (isSet f.onlyListing) "(items.search_is_store_minter = false OR (items.search_is_store_minter = true AND items.available = 0)) AND nfts_with_orders.listings_count > 0"⟩,
   ⟨"onlyMinting", fun f =>
     flag (isSet f.onlyMinting) "items.search_is_store_minter = true AND items.available > 0"⟩,
   ⟨"ids", fun f => values "items.id = ANY(" f.ids⟩,
   ⟨"emoteHasSound", fun f =>
     flag (isSet f.emoteHasSound) "items.search_emote_has_sound = true"⟩,
   ⟨"emoteHasGeometry", fun f =>
     flag (isSet f.emoteHasGeometry) "items.search_emote_has_geometry = true"⟩,
   ⟨"urns", fun f => values "items.urn = ANY(" f.urns⟩,
   ⟨"network", fun f =>
     values "items.network = ANY(" ((f.network.map Filters.Network.indexed).getD [])⟩]

end MarketQuery.Query.Catalog
