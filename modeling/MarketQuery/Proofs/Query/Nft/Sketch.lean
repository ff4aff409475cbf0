import MarketQuery.Proofs.Filters.Check
import MarketQuery.Proofs.Query.Sketch
import MarketQuery.Query.Nft

namespace MarketQuery.Query.Nft

open Condition (Drawn drawn_flag drawn_twice drawn_value drawn_values draws_join)
open Sql (Fragment Sketch Slot)
open Sql.Sketch (Draws)

set_option maxRecDepth 10000

section Parts

variable {schemas : Schemas} {contracts : List String} {a b c : Sketch}

theorem drawn_itemRarities (f : Filters.Nft)
    (h : ∀ p, Slot.texts.Holds contracts p → Drawn schemas contracts a
      (Condition.twice "(nft.search_wearable_rarity = ANY(" ") OR nft.search_emote_rarity = ANY("
        "))" (some p))) :
    Drawn schemas contracts a (itemRarities f) := by
  intro x hx
  rw [itemRarities] at hx
  split at hx
  · cases hx
  · have hne : f.itemRarities.map Vocabulary.word ≠ [] := fun he =>
      ‹¬ f.itemRarities.isEmpty› (List.isEmpty_iff.mpr (List.map_eq_nil_iff.mp he))
    exact h _ ⟨_, rfl, hne⟩ x hx

end Parts

def conditionsSketch : { ks : List Sketch // ∀ schemas contracts (f : Filters.Nft),
    f.check = .ok () →
    List.Forall₂ (fun k c => Drawn schemas contracts k (c.build f)) ks conditions } :=
  ⟨_, fun _ _ f h =>
    .cons (drawn_value Slot.text_of_map) <|
    .cons (drawn_value Slot.text_of_map) <|
    .cons (drawn_value (Slot.amount_of_map (Filters.Nft.tokenId_of_check h))) <|
    .cons (drawn_value Slot.text_of_map) <|
    .cons (drawn_values .literal) <|
    .cons (drawn_flag .literal) <|
    .cons (drawn_flag .literal) <|
    .cons (drawn_value Slot.int_of_map) <|
    .cons (drawn_value Slot.int_of_map) <|
    .cons (drawn_value Slot.text_of_map) <|
    .cons (drawn_value Slot.text_of_map) <|
    .cons (drawn_flag .literal) <|
    .cons (drawn_flag .literal) <|
    .cons (drawn_flag .literal) <|
    .cons (drawn_flag (.text_append .literal .literal)) <|
    .cons (drawn_values .literal) <|
    .cons (drawn_value Slot.text_of_map) <|
    .cons (drawn_value Slot.int_of_map) <|
    .cons (drawn_value Slot.int_of_map) <|
    .cons (drawn_flag .literal) <|
    .cons (drawn_value Slot.bool_of_map) <|
    .cons (drawn_values .literal) <|
    .cons (drawn_values .literal) <|
    .cons (drawn_values .literal) <|
    .cons (drawn_values .literal) <|
    .cons (drawn_itemRarities f fun _ hp => drawn_twice fun _ hq => Option.some.inj hq ▸ hp) <|
    .cons (drawn_twice (Slot.amount_of_map (Filters.Nft.prices_of_check h).1)) <|
    .cons (drawn_twice (Slot.amount_of_map (Filters.Nft.prices_of_check h).2)) <|
    .cons (drawn_flag .literal) .nil⟩

theorem draws_whereClause {schemas : Schemas} {contracts : List String} {a b : Sketch}
    {ks : List Sketch} {f : Filters.Nft} (hwhere : a.Draws schemas contracts (.text "\nWHERE "))
    (hb : b.Draws schemas contracts (.text separator))
    (h : List.Forall₂ (fun k c => Drawn schemas contracts k (c.build f)) ks conditions) :
    (Sketch.either .empty (.append a (Condition.joinSketch b ks))).Draws schemas contracts
      (whereClause f) := by
  rw [whereClause]
  split
  · rename_i x hx
    exact .right (.append hwhere (draws_join hb h hx))
  · exact .left .empty

def sketch : { k : Sketch // ∀ schemas (marketplaces : List String) (f : Filters.Nft),
    f.check = .ok () →
    k.Draws schemas (marketplaces.map Text.lowercase) (body schemas marketplaces f) } :=
  ⟨_, fun schemas marketplaces f h => .append (.append (.append (.append
      (draws_withClause .literal (Source.unifiedTradesSketch.property schemas marketplaces) .nil)
      .literal)
      (.piece <| .piece <| .piece <| .piece <| .piece <| .piece <| .piece <| .piece <| .piece <|
        .piece <| .piece <| .piece <| .piece .last))
      (draws_whereClause .literal .literal (conditionsSketch.property schemas _ f h)))
      (.text_append (.text_append (.text_append .literal .number) .literal) .number)⟩

end MarketQuery.Query.Nft
