import MarketQuery.Filters.Vocabulary
import MarketQuery.Json.Codec
import MarketQuery.Text.Normal

namespace MarketQuery.Filters

open Json (Codec RecordField)

inductive Creator where
  | one (address : String)
  | many (addresses : List String)
  deriving DecidableEq

def Creator.values : Creator → List String
  | .one address => [address]
  | .many addresses => addresses

def Creator.codec : Codec Creator where
  encode
    | .one address => .text address
    | .many addresses => Json.Value.texts addresses
  decode
    | .text address => some (.one address)
    | v => (Codec.text.list.decode v).map .many

/-- What a request for catalog items asks for. A flag only restricts the result when it is set to
true; `isOnSale` alone also means something when it is false. -/
structure Catalog where
  category : Option Category := none
  rarities : List Rarity := []
  creator : Option Creator := none
  contractAddresses : List String := []
  ids : List String := []
  urns : List String := []
  search : Option String := none
  wearableCategory : Option WearableCategory := none
  wearableGenders : List Gender := []
  isWearableHead : Option Bool := none
  isWearableAccessory : Option Bool := none
  isWearableSmart : Option Bool := none
  emoteCategory : Option EmoteCategory := none
  emotePlayMode : List PlayMode := []
  emoteHasSound : Option Bool := none
  emoteHasGeometry : Option Bool := none
  emoteGenders : List Gender := []
  isOnSale : Option Bool := none
  isSoldOut : Option Bool := none
  onlyListing : Option Bool := none
  onlyMinting : Option Bool := none
  /-- The least price in wei, in decimal digits. -/
  minPrice : Option String := none
  /-- The greatest price in wei, in decimal digits. -/
  maxPrice : Option String := none
  network : Option Network := none
  limit : Option UInt32 := none
  offset : Option UInt32 := none
  sortBy : Option SortKey := none
  sortDirection : Option SortDirection := none
  deriving DecidableEq, Inhabited

def searchTerm (search : Option String) : Option String :=
  (search.map Text.trim).filter (! ·.isEmpty)

/-- The body shapes that genders stand for, the male one first. -/
def bodyShapes (genders : List Gender) : List String :=
  let unisex := genders.contains .unisex
  (if unisex || genders.contains .male then ["BaseMale"] else []) ++
    (if unisex || genders.contains .female then ["BaseFemale"] else [])

/-- Whether emotes are to loop; nothing when both play modes are asked for, or neither. -/
def singlePlayMode (modes : List PlayMode) : Option Bool :=
  match modes.contains .loop, modes.contains .once with
  | true, false => some true
  | false, true => some false
  | _, _ => none

namespace Catalog

def creators (f : Catalog) : List String := (f.creator.map Creator.values).getD []

def term? (f : Catalog) : Option String := searchTerm f.search

/-- A search that has not been ranked yet: there is a term, and no ids to choose from. -/
def searchesInline (f : Catalog) : Bool := f.term?.isSome && f.ids.isEmpty

open Json.Codec in
def fields : List (RecordField Catalog) :=
  [.optional "category" (nullable term) category fun x f => { f with category := x },
   .optional "rarities" (list term) rarities fun x f => { f with rarities := x },
   .optional "creator" (nullable Creator.codec) creator fun x f => { f with creator := x },
   .optional "contractAddresses" (list text) contractAddresses
     fun x f => { f with contractAddresses := x },
   .optional "ids" (list text) ids fun x f => { f with ids := x },
   .optional "urns" (list text) urns fun x f => { f with urns := x },
   .optional "search" (nullable text) search fun x f => { f with search := x },
   .optional "wearableCategory" (nullable term) wearableCategory
     fun x f => { f with wearableCategory := x },
   .optional "wearableGenders" (list term) wearableGenders
     fun x f => { f with wearableGenders := x },
   .optional "isWearableHead" (nullable bool) isWearableHead
     fun x f => { f with isWearableHead := x },
   .optional "isWearableAccessory" (nullable bool) isWearableAccessory
     fun x f => { f with isWearableAccessory := x },
   .optional "isWearableSmart" (nullable bool) isWearableSmart
     fun x f => { f with isWearableSmart := x },
   .optional "emoteCategory" (nullable term) emoteCategory
     fun x f => { f with emoteCategory := x },
   .optional "emotePlayMode" (list term) emotePlayMode fun x f => { f with emotePlayMode := x },
   .optional "emoteHasSound" (nullable bool) emoteHasSound
     fun x f => { f with emoteHasSound := x },
   .optional "emoteHasGeometry" (nullable bool) emoteHasGeometry
     fun x f => { f with emoteHasGeometry := x },
   .optional "emoteGenders" (list term) emoteGenders fun x f => { f with emoteGenders := x },
   .optional "isOnSale" (nullable bool) isOnSale fun x f => { f with isOnSale := x },
   .optional "isSoldOut" (nullable bool) isSoldOut fun x f => { f with isSoldOut := x },
   .optional "onlyListing" (nullable bool) onlyListing fun x f => { f with onlyListing := x },
   .optional "onlyMinting" (nullable bool) onlyMinting fun x f => { f with onlyMinting := x },
   .optional "minPrice" (nullable text) minPrice fun x f => { f with minPrice := x },
   .optional "maxPrice" (nullable text) maxPrice fun x f => { f with maxPrice := x },
   .optional "network" (nullable term) network fun x f => { f with network := x },
   .optional "limit" (nullable word32) limit fun x f => { f with limit := x },
   .optional "offset" (nullable word32) offset fun x f => { f with offset := x },
   .optional "sortBy" (nullable term) sortBy fun x f => { f with sortBy := x },
   .optional "sortDirection" (nullable term) sortDirection
     fun x f => { f with sortDirection := x }]

def encode (f : Catalog) : Json.Value := RecordField.encodeRecord fields f

def decode (v : Json.Value) : Option Catalog := RecordField.decodeRecord .json fields {} v

end Catalog

end MarketQuery.Filters
