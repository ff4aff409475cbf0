import MarketQuery.Query.Condition
import MarketQuery.Text.Normal

namespace MarketQuery.Query.Nft

open Condition (flag twice value values)
open Filters (isSet)
open Sql (Fragment Param)
open Vocabulary (word)

/-- Tokens carry their rarity as a wearable or as an emote. -/
def itemRarities (f : Filters.Nft) : Option Fragment :=
  if f.itemRarities.isEmpty then none
  else
    twice "(nft.search_wearable_rarity = ANY(" ") OR nft.search_emote_rarity = ANY(" "))"
      (some (.textArray (f.itemRarities.map word)))

def conditions : List (Condition Filters.Nft) :=
  [⟨"category", fun f =>
     value "LOWER(nft.category) = " "" (f.category.map (.text <| word ·))⟩,
   ⟨"owner", fun f =>
     value "LOWER(account.address) = LOWER(" ")" (f.owner.map .text)⟩,
   ⟨"tokenId", fun f => value "nft.token_id = " "::numeric" (f.tokenId.map .text)⟩,
   ⟨"itemId", fun f => value "LOWER(nft.item_id) = LOWER(" ")" (f.itemId.map .text)⟩,
   ⟨"network", fun f =>
     values "nft.network = ANY(" ((f.network.map Filters.Network.indexed).getD [])⟩,
   ⟨"emoteHasSound", fun f => flag (isSet f.emoteHasSound) "emote.has_sound = true"⟩,
   ⟨"emoteHasGeometry", fun f => flag (isSet f.emoteHasGeometry) "emote.has_geometry = true"⟩,
   ⟨"minEstateSize", fun f => value "estate.size >= " "" (f.minEstateSize.map .int)⟩,
   ⟨"maxEstateSize", fun f => value "estate.size <= " "" (f.maxEstateSize.map .int)⟩,
   ⟨"emoteCategory", fun f =>
     value "emote.category = " "" (f.emoteCategory.map (.text <| word ·))⟩,
   ⟨"wearableCategory", fun f =>
     value "wearable.category = " "" (f.wearableCategory.map (.text <| word ·))⟩,
   ⟨"isWearableHead", fun f =>
     flag (isSet f.isWearableHead) "nft.search_is_wearable_head = true"⟩,
   ⟨"isLand", fun f => flag (isSet f.isLand) "nft.search_is_land = true"⟩,
   ⟨"isWearableAccessory", fun f =>
     flag (isSet f.isWearableAccessory) "nft.search_is_wearable_accessory = true"⟩,
   ⟨"isWearableSmart", fun f =>
     flag (isSet f.isWearableSmart) ("nft.item_type = " ++ smartWearableType)⟩,
   ⟨"contractAddresses", fun f => values "nft.contract_address = ANY(" f.contractAddresses⟩,
   ⟨"search", fun f => value "nft.search_text % " "" (f.term?.map .text)⟩,
   ⟨"minDistanceToPlaza", fun f =>
     value "nft.search_distance_to_plaza >= " "" (f.minDistanceToPlaza.map .int)⟩,
   ⟨"maxDistanceToPlaza", fun f =>
     value "nft.search_distance_to_plaza <= " "" (f.maxDistanceToPlaza.map .int)⟩,
   ⟨"adjacentToRoad", fun f =>
     flag (isSet f.adjacentToRoad) "nft.search_adjacent_to_road = true"⟩,
   ⟨"emotePlayMode", fun f =>
     value "nft.search_emote_loop = " "" ((Filters.singlePlayMode f.emotePlayMode).map .bool)⟩,
   ⟨"emoteGenders", fun f =>
     values "nft.search_emote_body_shapes @> (" (Filters.bodyShapes f.emoteGenders)⟩,
   ⟨"wearableGenders", fun f =>
     values "nft.search_wearable_body_shapes @> (" (Filters.bodyShapes f.wearableGenders)⟩,
   ⟨"creator", fun f =>
     values "LOWER(item.creator) = ANY(" (f.creators.map Text.lowercase)⟩,
   ⟨"ids", fun f => values "nft.id = ANY(" f.ids⟩,
   ⟨"itemRarities", itemRarities⟩,
   ⟨"minPrice", fun f =>
     twice "(nft.search_order_price >= "
       "::numeric OR (trades.assets -> 'received' ->> 'amount')::numeric >= " "::numeric)"
       (f.minPrice.map .text)⟩,
   ⟨"maxPrice", fun f =>
     twice "(nft.search_order_price <= "
       "::numeric OR (trades.assets -> 'received' ->> 'amount')::numeric <= " "::numeric)"
       (f.maxPrice.map .text)⟩,
   ⟨"isOnSale", fun f =>
     flag (isSet f.isOnSale) "(trades.id IS NOT NULL OR nft.search_order_status = 'open')"⟩]

end MarketQuery.Query.Nft
