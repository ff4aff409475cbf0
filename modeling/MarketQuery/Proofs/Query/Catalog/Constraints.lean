import MarketQuery.Proofs.Query.Catalog.Legible

namespace MarketQuery.Query.Catalog

open Condition (flag_inj network_inj twice_inj value_inj values_inj word_injective)
open Filters (EmoteCategory Network Rarity SortDirection SortKey WearableCategory)
open Sql (Fragment Param)
open Sql.Fragment
open Vocabulary (word)

/-- All that a request for catalog items asks for, without its redundant spellings: flags that are
false, a blank search, one creator in a list, the order of genders, a key that is overridden. -/
structure Constraints where
  itemClass : ItemClass
  rarities : List Rarity
  creators : List String
  contractAddresses : List String
  ids : List String
  urns : List String
  hasTerm : Bool
  /-- What is searched for, as long as there are no ids to choose from. -/
  inlineTerm : Option String
  isOnSale : Option Bool
  flags : Flags
  wearableCategory : Option WearableCategory
  emoteCategory : Option EmoteCategory
  wearableShapes : List String
  emoteShapes : List String
  playMode : Option Bool
  minPrice : Option String
  maxPrice : Option String
  network : Option Network
  page : Option (UInt32 × UInt32)
  sorting : Option (SortKey × Option SortDirection)
  deriving DecidableEq

def constraints (f : Filters.Catalog) : Constraints where
  itemClass := itemClass f
  rarities := f.rarities
  creators := f.creators
  contractAddresses := f.contractAddresses
  ids := f.ids
  urns := f.urns
  hasTerm := f.term?.isSome
  inlineTerm := inlineTerm f
  isOnSale := f.isOnSale
  flags := flags f
  wearableCategory := f.wearableCategory
  emoteCategory := f.emoteCategory
  wearableShapes := Filters.bodyShapes f.wearableGenders
  emoteShapes := Filters.bodyShapes f.emoteGenders
  playMode := Filters.singlePlayMode f.emotePlayMode
  minPrice := f.minPrice
  maxPrice := f.maxPrice
  network := f.network
  page := page f
  sorting := sorting f

/-- The class of the items can be read back from the condition on it. -/
theorem category_inj {f g : Filters.Catalog} (h : category f = category g) :
    itemClass f = itemClass g := by
  rw [category_eq, category_eq] at h
  cases hf : (itemClass f).condition with
  | none =>
    have hany : ∀ c : ItemClass, c.condition = none → c = .any := by
      intro c hc
      cases c <;> first | rfl | cases hc
    rw [hany _ hf, hany _ (h.symm.trans hf)]
  | some x => exact ItemClass.eq_of_condition (r := .empty) hf (h.symm.trans hf) rfl

theorem creator_inj {f g : Filters.Catalog} (h : creator f = creator g) :
    f.creators = g.creators := by
  cases hf : creator f with
  | none =>
    have hnil : ∀ f : Filters.Catalog, creator f = none → f.creators = [] := by
      intro f hf
      unfold creator at hf
      split at hf
      · assumption
      · cases hf
      · cases hf
    rw [hnil f hf, hnil g (h.symm.trans hf)]
  | some x =>
    rcases creator_eq_some hf with ⟨a, ha, rfl⟩ | rfl <;>
      rcases creator_eq_some (h.symm.trans hf) with ⟨b, hb, he⟩ | he <;>
      rw [append_right_inj] at he
    · rw [bind_inj, Param.text.injEq] at he
      rw [ha, hb, he]
    · exact absurd he (bind_ne_literal _ _ _ .empty _)
    · exact absurd he.symm (bind_ne_literal _ _ _ .empty _)
    · rw [append_right_inj, bind_append_inj, Param.textArray.injEq] at he
      exact he.1

theorem ids_eq {f g : Filters.Catalog} (h : ∀ c ∈ conditions, c.build f = c.build g) :
    f.ids = g.ids := by
  simp only [conditions, List.forall_mem_cons] at h
  obtain ⟨-, -, -, -, -, -, -, -, -, -, -, -, -, -, -, -, -, hids, -⟩ := h
  exact values_inj hids

/-- The conditions and what is not among them make up all constraints. -/
theorem constraints_eq {f g : Filters.Catalog} (h : ∀ c ∈ conditions, c.build f = c.build g)
    (hterm : f.term?.isSome = g.term?.isSome) (hinline : inlineTerm f = inlineTerm g)
    (hpage : page f = page g) (hsorting : sorting f = sorting g) :
    constraints f = constraints g := by
  simp only [conditions, List.forall_mem_cons] at h
  obtain ⟨hcategory, hrarities, hcreator, hsold, hsale, hhead, haccessory, hwearable, hwshapes,
    hemote, hmode, heshapes, hcontracts, hmin, hmax, hlisting, hminting, hids, hsound, hgeometry,
    hurns, hnetwork, -⟩ := h
  have htext : Function.Injective Param.text := fun _ _ => Param.text.inj
  have hflags : flags f = flags g := by
    rw [flags, flags, flag_inj hsold, flag_inj hhead, flag_inj haccessory, flag_inj hlisting,
      flag_inj hminting, flag_inj hsound, flag_inj hgeometry]
  have hsale : f.isOnSale = g.isOnSale := by
    refine Option.map_injective (fun a b hab => ?_) hsale
    cases a <;> cases b
    · rfl
    · exact absurd hab ((opens_text _).ne (opens_text _) (by decide))
    · exact absurd hab ((opens_text _).ne (opens_text _) (by decide))
    · rfl
  have hrarities := (List.map_inj_right fun _ _ h => word_injective h).mp (values_inj hrarities)
  have hwearable := Option.map_injective (htext.comp word_injective) (value_inj hwearable)
  have hemote := Option.map_injective (htext.comp word_injective) (value_inj hemote)
  have hmode := Option.map_injective (fun _ _ => Param.bool.inj) (value_inj hmode)
  have hmin := Option.map_injective htext (twice_inj hmin)
  have hmax := Option.map_injective htext (twice_inj hmax)
  rw [constraints, constraints, category_inj hcategory, hrarities, creator_inj hcreator,
    values_inj hcontracts, values_inj hids, values_inj hurns, hterm, hinline, hsale, hflags,
    hwearable, hemote, values_inj hwshapes, values_inj heshapes, hmode, hmin, hmax,
    network_inj (values_inj hnetwork), hpage, hsorting]

end MarketQuery.Query.Catalog
