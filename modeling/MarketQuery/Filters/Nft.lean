import MarketQuery.Filters.Catalog

namespace MarketQuery.Filters

open Json (Codec RecordField)

structure Nft where
  category : Option Category := none
  owner : Option String := none
  tokenId : Option String := none
  itemId : Option String := none
  network : Option Network := none
  emoteHasSound : Option Bool := none
  emoteHasGeometry : Option Bool := none
  minEstateSize : Option Int64 := none
  maxEstateSize : Option Int64 := none
  wearableCategory : Option WearableCategory := none
  emoteCategory : Option EmoteCategory := none
  isWearableHead : Option Bool := none
  isLand : Option Bool := none
  isWearableAccessory : Option Bool := none
  isWearableSmart : Option Bool := none
  contractAddresses : List String := []
  search : Option String := none
  minDistanceToPlaza : Option Int64 := none
  maxDistanceToPlaza : Option Int64 := none
  adjacentToRoad : Option Bool := none
  emotePlayMode : List PlayMode := []
  emoteGenders : List Gender := []
  wearableGenders : List Gender := []
  creator : Option Creator := none
  ids : List String := []
  itemRarities : List Rarity := []
  minPrice : Option String := none
  maxPrice : Option String := none
  isOnSale : Option Bool := none
  /-- How many tokens a page holds. -/
  first : Option UInt32 := none
  skip : Option UInt32 := none
  deriving DecidableEq, Inhabited

namespace Nft

def creators (f : Nft) : List String := (f.creator.map Creator.values).getD []

def term? (f : Nft) : Option String := searchTerm f.search

def ofTokenId (contractAddress tokenId : String) (network : Network) : Nft :=
  { tokenId := some tokenId, network := some network, contractAddresses := [contractAddress] }

open Json.Codec in
def fields : List (RecordField Nft) :=
  [.optional "category" (nullable term) category fun x f => { f with category := x },
   .optional "owner" (nullable text) owner fun x f => { f with owner := x },
   .optional "tokenId" (nullable text) tokenId fun x f => { f with tokenId := x },
   .optional "itemId" (nullable text) itemId fun x f => { f with itemId := x },
   .optional "network" (nullable term) network fun x f => { f with network := x },
   .optional "emoteHasSound" (nullable bool) emoteHasSound
     fun x f => { f with emoteHasSound := x },
   .optional "emoteHasGeometry" (nullable bool) emoteHasGeometry
     fun x f => { f with emoteHasGeometry := x },
   .optional "minEstateSize" (nullable int64) minEstateSize
     fun x f => { f with minEstateSize := x },
   .optional "maxEstateSize" (nullable int64) maxEstateSize
     fun x f => { f with maxEstateSize := x },
   .optional "wearableCategory" (nullable term) wearableCategory
     fun x f => { f with wearableCategory := x },
   .optional "emoteCategory" (nullable term) emoteCategory
     fun x f => { f with emoteCategory := x },
   .optional "isWearableHead" (nullable bool) isWearableHead
     fun x f => { f with isWearableHead := x },
   .optional "isLand" (nullable bool) isLand fun x f => { f with isLand := x },
   .optional "isWearableAccessory" (nullable bool) isWearableAccessory
     fun x f => { f with isWearableAccessory := x },
   .optional "isWearableSmart" (nullable bool) isWearableSmart
     fun x f => { f with isWearableSmart := x },
   .optional "contractAddresses" (list text) contractAddresses
     fun x f => { f with contractAddresses := x },
   .optional "search" (nullable text) search fun x f => { f with search := x },
   .optional "minDistanceToPlaza" (nullable int64) minDistanceToPlaza
     fun x f => { f with minDistanceToPlaza := x },
   .optional "maxDistanceToPlaza" (nullable int64) maxDistanceToPlaza
     fun x f => { f with maxDistanceToPlaza := x },
   .optional "adjacentToRoad" (nullable bool) adjacentToRoad
     fun x f => { f with adjacentToRoad := x },
   .optional "emotePlayMode" (list term) emotePlayMode fun x f => { f with emotePlayMode := x },
   .optional "emoteGenders" (list term) emoteGenders fun x f => { f with emoteGenders := x },
   .optional "wearableGenders" (list term) wearableGenders
     fun x f => { f with wearableGenders := x },
   .optional "creator" (nullable Creator.codec) creator fun x f => { f with creator := x },
   .optional "ids" (list text) ids fun x f => { f with ids := x },
   .optional "itemRarities" (list term) itemRarities fun x f => { f with itemRarities := x },
   .optional "minPrice" (nullable text) minPrice fun x f => { f with minPrice := x },
   .optional "maxPrice" (nullable text) maxPrice fun x f => { f with maxPrice := x },
   .optional "isOnSale" (nullable bool) isOnSale fun x f => { f with isOnSale := x },
   .optional "first" (nullable word32) first fun x f => { f with first := x },
   .optional "skip" (nullable word32) skip fun x f => { f with skip := x }]

def encode (f : Nft) : Json.Value := RecordField.encodeRecord fields f

def decode (v : Json.Value) : Option Nft := RecordField.decodeRecord .json fields {} v

end Nft

end MarketQuery.Filters
