import MarketQuery.Json.Codec

namespace MarketQuery.Filters

inductive Category where
  | wearable | emote | land | ens | parcel | estate
  deriving DecidableEq

instance : Vocabulary Category where
  word
    | .wearable => "wearable"
    | .emote => "emote"
    | .land => "land"
    | .ens => "ens"
    | .parcel => "parcel"
    | .estate => "estate"
  ofWord?
    | "wearable" => some .wearable
    | "emote" => some .emote
    | "land" => some .land
    | "ens" => some .ens
    | "parcel" => some .parcel
    | "estate" => some .estate
    | _ => none
  ofWord?_word a := by cases a <;> rfl

inductive Rarity where
  | common | uncommon | rare | epic | legendary | exotic | mythic | unique
  deriving DecidableEq

instance : Vocabulary Rarity where
  word
    | .common => "common"
    | .uncommon => "uncommon"
    | .rare => "rare"
    | .epic => "epic"
    | .legendary => "legendary"
    | .exotic => "exotic"
    | .mythic => "mythic"
    | .unique => "unique"
  ofWord?
    | "common" => some .common
    | "uncommon" => some .uncommon
    | "rare" => some .rare
    | "epic" => some .epic
    | "legendary" => some .legendary
    | "exotic" => some .exotic
    | "mythic" => some .mythic
    | "unique" => some .unique
    | _ => none
  ofWord?_word a := by cases a <;> rfl

inductive WearableCategory where
  | eyebrows | eyes | facialHair | hair | mouth | upperBody | lowerBody | feet | earring | eyewear
  | hat | helmet | mask | tiara | topHead | skin | handsWear
  deriving DecidableEq

instance : Vocabulary WearableCategory where
  word
    | .eyebrows => "eyebrows"
    | .eyes => "eyes"
    | .facialHair => "facial_hair"
    | .hair => "hair"
    | .mouth => "mouth"
    | .upperBody => "upper_body"
    | .lowerBody => "lower_body"
    | .feet => "feet"
    | .earring => "earring"
    | .eyewear => "eyewear"
    | .hat => "hat"
    | .helmet => "helmet"
    | .mask => "mask"
    | .tiara => "tiara"
    | .topHead => "top_head"
    | .skin => "skin"
    | .handsWear => "hands_wear"
  ofWord?
    | "eyebrows" => some .eyebrows
    | "eyes" => some .eyes
    | "facial_hair" => some .facialHair
    | "hair" => some .hair
    | "mouth" => some .mouth
    | "upper_body" => some .upperBody
    | "lower_body" => some .lowerBody
    | "feet" => some .feet
    | "earring" => some .earring
    | "eyewear" => some .eyewear
    | "hat" => some .hat
    | "helmet" => some .helmet
    | "mask" => some .mask
    | "tiara" => some .tiara
    | "top_head" => some .topHead
    | "skin" => some .skin
    | "hands_wear" => some .handsWear
    | _ => none
  ofWord?_word a := by cases a <;> rfl

inductive EmoteCategory where
  | dance | stunt | greetings | fun | poses | reactions | horror | miscellaneous
  deriving DecidableEq

instance : Vocabulary EmoteCategory where
  word
    | .dance => "dance"
    | .stunt => "stunt"
    | .greetings => "greetings"
    | .fun => "fun"
    | .poses => "poses"
    | .reactions => "reactions"
    | .horror => "horror"
    | .miscellaneous => "miscellaneous"
  ofWord?
    | "dance" => some .dance
    | "stunt" => some .stunt
    | "greetings" => some .greetings
    | "fun" => some .fun
    | "poses" => some .poses
    | "reactions" => some .reactions
    | "horror" => some .horror
    | "miscellaneous" => some .miscellaneous
    | _ => none
  ofWord?_word a := by cases a <;> rfl

inductive PlayMode where
  | loop | once
  deriving DecidableEq

instance : Vocabulary PlayMode where
  word
    | .loop => "loop"
    | .once => "once"
  ofWord?
    | "loop" => some .loop
    | "once" => some .once
    | "simple" => some .once
    | _ => none
  ofWord?_word a := by cases a <;> rfl

inductive Gender where
  | male | female | unisex
  deriving DecidableEq

instance : Vocabulary Gender where
  word
    | .male => "male"
    | .female => "female"
    | .unisex => "unisex"
  ofWord?
    | "male" => some .male
    | "female" => some .female
    | "unisex" => some .unisex
    | _ => none
  ofWord?_word a := by cases a <;> rfl

inductive Network where
  | ethereum | matic
  deriving DecidableEq

instance : Vocabulary Network where
  word
    | .ethereum => "ETHEREUM"
    | .matic => "MATIC"
  ofWord?
    | "ETHEREUM" => some .ethereum
    | "MATIC" => some .matic
    | "POLYGON" => some .matic
    | _ => none
  ofWord?_word a := by cases a <;> rfl

/-- What the index calls the network. -/
def Network.indexed : Network → List String
  | .ethereum => ["ethereum"]
  | .matic => ["polygon"]

/-- Every word that is not known is read as `other`. -/
inductive SortKey where
  | newest | mostExpensive | recentlyListed | recentlySold | cheapest | other
  deriving DecidableEq

instance : Vocabulary SortKey where
  word
    | .newest => "newest"
    | .mostExpensive => "most_expensive"
    | .recentlyListed => "recently_listed"
    | .recentlySold => "recently_sold"
    | .cheapest => "cheapest"
    | .other => "other"
  ofWord?
    | "newest" => some .newest
    | "most_expensive" => some .mostExpensive
    | "recently_listed" => some .recentlyListed
    | "recently_sold" => some .recentlySold
    | "cheapest" => some .cheapest
    | _ => some .other
  ofWord?_word a := by cases a <;> rfl

inductive SortDirection where
  | asc | desc
  deriving DecidableEq

instance : Vocabulary SortDirection where
  word
    | .asc => "asc"
    | .desc => "desc"
  ofWord?
    | "asc" => some .asc
    | "desc" => some .desc
    | _ => none
  ofWord?_word a := by cases a <;> rfl

def SortDirection.sql : SortDirection → String
  | .asc => "ASC"
  | .desc => "DESC"

end MarketQuery.Filters
