import MarketQuery.Proofs.Query.Legible
import MarketQuery.Proofs.Query.Nft.Shape

namespace MarketQuery.Query.Nft

open Condition
open Filters (Category EmoteCategory Network Rarity WearableCategory)
open Sql (Distinct Fragment Param)
open Sql.Fragment
open Vocabulary (word)

set_option maxRecDepth 4000

def rarityValue (f : Filters.Nft) : Option Param :=
  if f.itemRarities.isEmpty then none else some (.textArray (f.itemRarities.map word))

theorem itemRarities_eq (f : Filters.Nft) :
    itemRarities f = twice "(nft.search_wearable_rarity = ANY("
      ") OR nft.search_emote_rarity = ANY(" "))" (rarityValue f) := by
  rw [itemRarities, rarityValue]
  split <;> rfl

theorem legible_itemRarities :
    Legible "(nft.search_wearable_rarity = ANY(".toList ⟨"itemRarities", itemRarities⟩ := by
  rw [funext itemRarities_eq]
  exact legible_twice

theorem legible_isWearableSmart (name : String) {holds : Filters.Nft → Bool} :
    Legible "nft.item_type = 'smart_wearable_v1'".toList
      ⟨name, fun f => flag (holds f) ("nft.item_type = " ++ smartWearableType)⟩ := by
  have htext : "nft.item_type = " ++ smartWearableType =
      String.ofList "nft.item_type = 'smart_wearable_v1'".toList := by decide
  rw [htext]
  exact legible_flag

/-- Every condition of the table opens with a word of its own. -/
theorem legible_conditions :
    ∃ words, List.Forall₂ Legible words conditions ∧ words.Pairwise Distinct := by
  refine ⟨_, .cons legible_value <| .cons legible_value <| .cons legible_value <|
    .cons legible_value <| .cons legible_values <| .cons legible_flag <| .cons legible_flag <|
    .cons legible_value <| .cons legible_value <| .cons legible_value <| .cons legible_value <|
    .cons legible_flag <| .cons legible_flag <| .cons legible_flag <|
    .cons (legible_isWearableSmart _) <| .cons legible_values <| .cons legible_value <|
    .cons legible_value <| .cons legible_value <| .cons legible_flag <| .cons legible_value <|
    .cons legible_values <| .cons legible_values <| .cons legible_values <| .cons legible_values <|
    .cons legible_itemRarities <| .cons legible_twice <| .cons legible_twice <|
    .cons legible_flag .nil, ?_⟩
  decide

/-- All that a request for tokens asks for, without its redundant spellings: flags that are false, a
blank search, one creator in a list or in capital letters, the order of genders, a page of the usual
size. -/
structure Constraints where
  category : Option Category
  owner : Option String
  tokenId : Option String
  itemId : Option String
  network : Option Network
  minEstateSize : Option Int64
  maxEstateSize : Option Int64
  minDistanceToPlaza : Option Int64
  maxDistanceToPlaza : Option Int64
  wearableCategory : Option WearableCategory
  emoteCategory : Option EmoteCategory
  minPrice : Option String
  maxPrice : Option String
  term : Option String
  contractAddresses : List String
  ids : List String
  itemRarities : List Rarity
  /-- In small letters. -/
  creators : List String
  wearableShapes : List String
  emoteShapes : List String
  playMode : Option Bool
  flags : Flags
  pageSize : Nat
  pageStart : Nat
  deriving DecidableEq

def constraints (f : Filters.Nft) : Constraints where
  category := f.category
  owner := f.owner
  tokenId := f.tokenId
  itemId := f.itemId
  network := f.network
  minEstateSize := f.minEstateSize
  maxEstateSize := f.maxEstateSize
  minDistanceToPlaza := f.minDistanceToPlaza
  maxDistanceToPlaza := f.maxDistanceToPlaza
  wearableCategory := f.wearableCategory
  emoteCategory := f.emoteCategory
  minPrice := f.minPrice
  maxPrice := f.maxPrice
  term := f.term?
  contractAddresses := f.contractAddresses
  ids := f.ids
  itemRarities := f.itemRarities
  creators := f.creators.map Text.lowercase
  wearableShapes := Filters.bodyShapes f.wearableGenders
  emoteShapes := Filters.bodyShapes f.emoteGenders
  playMode := Filters.singlePlayMode f.emotePlayMode
  flags := flags f
  pageSize := pageSize f
  pageStart := pageStart f

theorem rarityValue_inj {f g : Filters.Nft} (h : rarityValue f = rarityValue g) :
    f.itemRarities = g.itemRarities := by
  rw [rarityValue, rarityValue] at h
  split at h <;> split at h
  · rename_i hf hg
    rw [List.isEmpty_iff.mp hf, List.isEmpty_iff.mp hg]
  · cases h
  · cases h
  · have hwords := Param.textArray.inj (Option.some.inj h)
    exact (List.map_inj_right fun _ _ hw => word_injective hw).mp hwords

/-- The conditions and the page make up all constraints. -/
theorem constraints_eq {f g : Filters.Nft} (h : ∀ c ∈ conditions, c.build f = c.build g)
    (hsize : pageSize f = pageSize g) (hstart : pageStart f = pageStart g) :
    constraints f = constraints g := by
  simp only [conditions, List.forall_mem_cons] at h
  obtain ⟨hcategory, howner, htoken, hitem, hnetwork, hsound, hgeometry, hminSize, hmaxSize,
    hemote, hwearable, hhead, hland, haccessory, hsmart, hcontracts, hterm, hminDistance,
    hmaxDistance, hroad, hmode, heshapes, hwshapes, hcreators, hids, hrarities, hmin, hmax,
    hsale, -⟩ := h
  have htext : Function.Injective Param.text := fun _ _ => Param.text.inj
  have hint : Function.Injective Param.int := fun _ _ => Param.int.inj
  have hflags : flags f = flags g := by
    rw [flags, flags, flag_inj hsound, flag_inj hgeometry, flag_inj hhead, flag_inj hland,
      flag_inj haccessory, flag_inj hsmart, flag_inj hroad, flag_inj hsale]
  have hcategory := Option.map_injective (htext.comp word_injective) (value_inj hcategory)
  have howner := Option.map_injective htext (value_inj howner)
  have htoken := Option.map_injective htext (value_inj htoken)
  have hitem := Option.map_injective htext (value_inj hitem)
  have hminSize := Option.map_injective hint (value_inj hminSize)
  have hmaxSize := Option.map_injective hint (value_inj hmaxSize)
  have hemote := Option.map_injective (htext.comp word_injective) (value_inj hemote)
  have hwearable := Option.map_injective (htext.comp word_injective) (value_inj hwearable)
  have hterm := Option.map_injective htext (value_inj hterm)
  have hminDistance := Option.map_injective hint (value_inj hminDistance)
  have hmaxDistance := Option.map_injective hint (value_inj hmaxDistance)
  have hmode := Option.map_injective (fun _ _ => Param.bool.inj) (value_inj hmode)
  have hmin := Option.map_injective htext (twice_inj hmin)
  have hmax := Option.map_injective htext (twice_inj hmax)
  rw [itemRarities_eq, itemRarities_eq] at hrarities
  rw [constraints, constraints, hcategory, howner, htoken, hitem,
    network_inj (values_inj hnetwork), hminSize, hmaxSize, hminDistance, hmaxDistance, hwearable,
    hemote, hmin, hmax, hterm, values_inj hcontracts, values_inj hids,
    rarityValue_inj (twice_inj hrarities), values_inj hcreators, values_inj hwshapes,
    values_inj heshapes, hmode, hflags, hsize, hstart]

/-- Nothing but its constraints goes into the conditions of a request. -/
theorem conditions_congr {f g : Filters.Nft} (h : constraints f = constraints g) :
    ∀ c ∈ conditions, c.build f = c.build g := by
  simp only [constraints, flags, Constraints.mk.injEq, Flags.mk.injEq] at h
  obtain ⟨hcategory, howner, htoken, hitem, hnetwork, hminSize, hmaxSize, hminDistance,
    hmaxDistance, hwearable, hemote, hmin, hmax, hterm, hcontracts, hids, hrarities, hcreators,
    hwshapes, heshapes, hmode,
    ⟨hsound, hgeometry, hhead, hland, haccessory, hsmart, hroad, hsale⟩, -, -⟩ := h
  simp only [conditions, List.forall_mem_cons, hcategory, howner, htoken, hitem, hnetwork,
    hminSize, hmaxSize, hminDistance, hmaxDistance, hwearable, hemote, hmin, hmax, hterm,
    hcontracts, hids, itemRarities, hrarities, hcreators, hwshapes, heshapes, hmode, hsound,
    hgeometry, hhead, hland, haccessory, hsmart, hroad, hsale]
  simp

end MarketQuery.Query.Nft
