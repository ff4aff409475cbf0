import MarketQuery.Proofs.Query.Clean
import MarketQuery.Query.Nft

namespace MarketQuery.Query.Nft

open Condition (CleanIfAny clean_flag clean_twice clean_value clean_values)
open Sql (Fragment)
open Sql.Fragment (Clean)

set_option maxRecDepth 10000

theorem clean_itemRarities (f : Filters.Nft) : CleanIfAny (itemRarities f) := by
  intro x hx
  rw [itemRarities] at hx
  split at hx
  · contradiction
  · exact clean_twice rfl rfl rfl x hx

theorem clean_conditions (f : Filters.Nft) : ∀ c ∈ conditions, CleanIfAny (c.build f) := by
  simp only [conditions, List.forall_mem_cons]
  exact ⟨clean_value rfl rfl, clean_value rfl rfl, clean_value rfl rfl, clean_value rfl rfl,
    clean_values rfl, clean_flag (.literal rfl), clean_flag (.literal rfl), clean_value rfl rfl,
    clean_value rfl rfl, clean_value rfl rfl, clean_value rfl rfl, clean_flag (.literal rfl),
    clean_flag (.literal rfl), clean_flag (.literal rfl),
    clean_flag (.text_append (.literal rfl) (.literal rfl)), clean_values rfl, clean_value rfl rfl,
    clean_value rfl rfl, clean_value rfl rfl, clean_flag (.literal rfl), clean_value rfl rfl,
    clean_values rfl, clean_values rfl, clean_values rfl, clean_values rfl, clean_itemRarities f,
    clean_twice rfl rfl rfl, clean_twice rfl rfl rfl, clean_flag (.literal rfl), by simp⟩

theorem clean_whereClause (f : Filters.Nft) : Clean (whereClause f) := by
  have hpresent : ∀ x ∈ (Condition.present conditions f).map (·.2), Clean x := by
    intro x hx
    obtain ⟨p, hp, rfl⟩ := List.mem_map.mp hx
    exact Condition.clean_present (clean_conditions f) p hp
  rw [whereClause]
  cases hj : Fragment.join separator ((Condition.present conditions f).map (·.2)) with
  | none => exact .empty
  | some cs => exact Clean.behind rfl (.join (.literal rfl) hpresent hj)

theorem clean_body {schemas : Schemas} (h : schemas.Plain) (marketplaces : List String)
    (f : Filters.Nft) : Clean (body schemas marketplaces f) := by
  have hrows : Clean (rows.fill schemas) := by
    apply Clean.fill
    simp only [rows, List.forall_mem_cons]
    exact ⟨.literal rfl, .name h _, .literal rfl, .name h _, .literal rfl, .name h _, .literal rfl,
      .name h _, .literal rfl, .name h _, .literal rfl, .name h _, .literal rfl, .name h _,
      .literal rfl, .name h _, .literal rfl, .name h _, .literal rfl, .name h _, .literal rfl,
      .name h _, .literal rfl, .name h _, .literal rfl, .name h _, .literal rfl, by simp⟩
  have htrades : ∀ x ∈ [Source.unifiedTrades schemas marketplaces], Clean x := by
    simpa using Source.clean_unifiedTrades h marketplaces
  have hsources := clean_withClause htrades
  exact (((hsources.append (.literal rfl)).append hrows).append (clean_whereClause f)).append
    (.page rfl rfl)

end MarketQuery.Query.Nft
