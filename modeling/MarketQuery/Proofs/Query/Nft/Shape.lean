import MarketQuery.Proofs.Query.Outline
import MarketQuery.Query.Nft

namespace MarketQuery.Query.Nft

open Filters (isSet)
open Sql (Fragment)

structure Flags where
  emoteHasSound : Bool
  emoteHasGeometry : Bool
  isWearableHead : Bool
  isLand : Bool
  isWearableAccessory : Bool
  isWearableSmart : Bool
  adjacentToRoad : Bool
  isOnSale : Bool
  deriving DecidableEq

def flags (f : Filters.Nft) : Flags where
  emoteHasSound := isSet f.emoteHasSound
  emoteHasGeometry := isSet f.emoteHasGeometry
  isWearableHead := isSet f.isWearableHead
  isLand := isSet f.isLand
  isWearableAccessory := isSet f.isWearableAccessory
  isWearableSmart := isSet f.isWearableSmart
  adjacentToRoad := isSet f.adjacentToRoad
  isOnSale := isSet f.isOnSale

/-- What a request for tokens shows in the text of its statement. -/
structure Shape where
  hasCategory : Bool
  hasOwner : Bool
  hasTokenId : Bool
  hasItemId : Bool
  hasNetwork : Bool
  hasMinEstateSize : Bool
  hasMaxEstateSize : Bool
  hasEmoteCategory : Bool
  hasWearableCategory : Bool
  noContractAddresses : Bool
  hasTerm : Bool
  hasMinDistance : Bool
  hasMaxDistance : Bool
  hasPlayMode : Bool
  noEmoteShapes : Bool
  noWearableShapes : Bool
  noCreators : Bool
  noIds : Bool
  noRarities : Bool
  hasMinPrice : Bool
  hasMaxPrice : Bool
  flags : Flags
  pageSize : Nat
  pageStart : Nat
  deriving DecidableEq

def shape (f : Filters.Nft) : Shape where
  hasCategory := f.category.isSome
  hasOwner := f.owner.isSome
  hasTokenId := f.tokenId.isSome
  hasItemId := f.itemId.isSome
  hasNetwork := f.network.isSome
  hasMinEstateSize := f.minEstateSize.isSome
  hasMaxEstateSize := f.maxEstateSize.isSome
  hasEmoteCategory := f.emoteCategory.isSome
  hasWearableCategory := f.wearableCategory.isSome
  noContractAddresses := f.contractAddresses.isEmpty
  hasTerm := f.term?.isSome
  hasMinDistance := f.minDistanceToPlaza.isSome
  hasMaxDistance := f.maxDistanceToPlaza.isSome
  hasPlayMode := (Filters.singlePlayMode f.emotePlayMode).isSome
  noEmoteShapes := (Filters.bodyShapes f.emoteGenders).isEmpty
  noWearableShapes := (Filters.bodyShapes f.wearableGenders).isEmpty
  noCreators := f.creators.isEmpty
  noIds := f.ids.isEmpty
  noRarities := f.itemRarities.isEmpty
  hasMinPrice := f.minPrice.isSome
  hasMaxPrice := f.maxPrice.isSome
  flags := flags f
  pageSize := pageSize f
  pageStart := pageStart f

theorem outline_itemRarities {f g : Filters.Nft}
    (h : f.itemRarities.isEmpty = g.itemRarities.isEmpty) :
    (itemRarities f).map Fragment.outline = (itemRarities g).map Fragment.outline := by
  rw [itemRarities, itemRarities, h]
  split
  · rfl
  · exact Condition.outline_twice rfl

theorem outline_conditions {f g : Filters.Nft} (h : shape f = shape g) :
    ∀ c ∈ conditions, (c.build f).map Fragment.outline = (c.build g).map Fragment.outline := by
  simp only [shape, flags, Shape.mk.injEq, Flags.mk.injEq] at h
  obtain ⟨hcategory, howner, htoken, hitem, hnetwork, hminSize, hmaxSize, hemote, hwearable,
    hcontracts, hterm, hminDistance, hmaxDistance, hmode, heshapes, hwshapes, hcreators, hids,
    hrarities, hmin, hmax, ⟨hsound, hgeometry, hhead, hland, haccessory, hsmart, hroad, hsale⟩,
    -, -⟩ := h
  have value_map {α : Type} {before after : String} {p : α → Sql.Param} {v w : Option α}
      (hv : v.isSome = w.isSome) :
      (Condition.value before after (v.map p)).map Fragment.outline =
        (Condition.value before after (w.map p)).map Fragment.outline :=
    Condition.outline_value (by simpa using hv)
  simp only [conditions, List.forall_mem_cons]
  refine ⟨value_map hcategory, value_map howner, value_map htoken, value_map hitem,
    Condition.outline_network hnetwork,
    Condition.outline_flag hsound, Condition.outline_flag hgeometry, value_map hminSize,
    value_map hmaxSize, value_map hemote, value_map hwearable, Condition.outline_flag hhead,
    Condition.outline_flag hland, Condition.outline_flag haccessory,
    Condition.outline_flag hsmart, Condition.outline_values hcontracts, value_map hterm,
    value_map hminDistance, value_map hmaxDistance, Condition.outline_flag hroad,
    value_map hmode, Condition.outline_values heshapes, Condition.outline_values hwshapes,
    Condition.outline_values (by simpa using hcreators), Condition.outline_values hids,
    outline_itemRarities hrarities, Condition.outline_twice (by simpa using hmin),
    Condition.outline_twice (by simpa using hmax), Condition.outline_flag hsale, by simp⟩

theorem outline_whereClause {f g : Filters.Nft} (h : shape f = shape g) :
    (whereClause f).outline = (whereClause g).outline := by
  have hc : ((Condition.present conditions f).map (·.2)).map Fragment.outline =
      ((Condition.present conditions g).map (·.2)).map Fragment.outline := by
    simpa [Function.comp_def] using Condition.outline_present (outline_conditions h)
  have hj := Fragment.outline_join separator hc
  rw [whereClause, whereClause]
  generalize Fragment.join separator ((Condition.present conditions f).map (·.2)) = x at hj ⊢
  generalize Fragment.join separator ((Condition.present conditions g).map (·.2)) = y at hj ⊢
  cases x <;> cases y <;> simp_all

/-- Requests for tokens of one shape have statements of one outline. -/
theorem outline_body (schemas : Schemas) (as bs : List String) {f g : Filters.Nft}
    (h : shape f = shape g) : (body schemas as f).outline = (body schemas bs g).outline := by
  have hsources : [Source.unifiedTrades schemas as].map Fragment.outline =
      [Source.unifiedTrades schemas bs].map Fragment.outline := by
    simp [Source.outline_unifiedTrades schemas as bs]
  have hsize : pageSize f = pageSize g := congrArg Shape.pageSize h
  have hstart : pageStart f = pageStart g := congrArg Shape.pageStart h
  simp only [body, Fragment.outline_append, outline_withClause hsources, outline_whereClause h,
    hsize, hstart]

end MarketQuery.Query.Nft
