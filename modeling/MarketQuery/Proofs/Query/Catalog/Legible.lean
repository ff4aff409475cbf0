import MarketQuery.Proofs.Query.Facets
import MarketQuery.Proofs.Query.Legible

namespace MarketQuery.Query.Catalog

open Condition
open Sql (Distinct Fragment)
open Sql.Fragment

set_option maxRecDepth 4000

/-- No two classes have the same condition, whatever follows it. -/
theorem ItemClass.eq_of_condition {c d : ItemClass} {x y r s : Fragment}
    (hx : c.condition = some x) (hy : d.condition = some y) (h : x ++ r = y ++ s) : c = d := by
  cases c <;> cases hx <;> cases d <;> cases hy <;>
    first
    | rfl
    | simp only [text_append, append_assoc, append_right_inj] at h
  · exact absurd h (literal_ne (by decide) _ _)
  · exact absurd h (literal_ne (by decide) _ _)
  · exact absurd h (literal_ne (by decide) _ _)
  · exact absurd h (literal_ne (by decide) _ _)
  · exact absurd h (literal_ne (by decide) _ _)
  · exact absurd h (literal_ne (by decide) _ _)

theorem legible_category :
    Legible ['i', 't', 'e', 'm', 's', '.', 'i', 't'] ⟨"category", category⟩ := by
  refine ⟨fun f x hx => ?_, fun f g x y hx hy r s h => ?_⟩
  · simp only [category_eq] at hx
    cases hf : itemClass f <;> rw [hf] at hx <;> cases hx <;> rw [text_append]
    · exact (opens_literal _ _).append _
    · exact (opens_literal _ _).append _
    · exact (opens_literal _ _).append _
  · simp only [category_eq] at hx hy
    rw [ItemClass.eq_of_condition hx hy h] at hx
    exact Option.some.inj (hx.symm.trans hy)

theorem creator_eq_some {f : Filters.Catalog} {x : Fragment} (h : creator f = some x) :
    (∃ a, f.creators = [a] ∧ x = .text "items.creator = " ++ .bind (.text a)) ∨
      x = .text "items.creator = " ++
        (.text "ANY(" ++ (.bind (.textArray f.creators) ++ .text ")")) := by
  unfold creator at h
  split at h
  · cases h
  · next a ha => exact .inl ⟨a, ha, (Option.some.inj h).symm⟩
  · have hsplit : "items.creator = ANY(" = "items.creator = " ++ "ANY(" := by decide
    rw [hsplit, text_append, append_assoc, append_assoc] at h
    exact .inr (Option.some.inj h).symm

/-- One creator is told from several by how they are compared. -/
theorem legible_creator :
    Legible ['i', 't', 'e', 'm', 's', '.', 'c', 'r'] ⟨"creator", creator⟩ := by
  refine ⟨fun f x hx => ?_, fun f g x y hx hy r s h => ?_⟩
  · rcases creator_eq_some hx with ⟨a, -, rfl⟩ | rfl
    · exact (opens_literal _ _).append _
    · exact (opens_literal _ _).append _
  · rcases creator_eq_some hx with ⟨a, -, rfl⟩ | rfl <;>
      rcases creator_eq_some hy with ⟨b, -, rfl⟩ | rfl <;>
      simp only [append_assoc, append_right_inj] at h
    · rw [(bind_append_inj.mp h).1]
    · exact absurd h (bind_ne_literal _ _ _ _ _)
    · exact absurd h.symm (bind_ne_literal _ _ _ _ _)
    · rw [(bind_append_inj.mp h).1]

theorem legible_isOnSale : Legible ['(', '('] ⟨"isOnSale", isOnSale⟩ := by
  refine ⟨fun f x hx => ?_, fun f g x y hx hy r s h => ?_⟩
  · obtain ⟨b, -, rfl⟩ := Option.map_eq_some_iff.mp hx
    cases b
    · exact opens_literal _ _
    · exact opens_literal _ _
  · obtain ⟨a, -, rfl⟩ := Option.map_eq_some_iff.mp hx
    obtain ⟨b, -, rfl⟩ := Option.map_eq_some_iff.mp hy
    cases a <;> cases b
    · rfl
    · exact absurd h (literal_ne (by decide) _ _)
    · exact absurd h (literal_ne (by decide) _ _)
    · rfl

/-- Every condition of the table opens with a word of its own: the text before its value, or a
beginning of it that all its forms share. -/
theorem legible_conditions :
    ∃ words, List.Forall₂ Legible words conditions ∧ words.Pairwise Distinct := by
  refine ⟨_, .cons legible_category <| .cons legible_values <| .cons legible_creator <|
    .cons legible_flag <| .cons legible_isOnSale <| .cons legible_flag <| .cons legible_flag <|
    .cons legible_value <| .cons legible_values <| .cons legible_value <| .cons legible_value <|
    .cons legible_values <| .cons legible_values <| .cons legible_twice <| .cons legible_twice <|
    .cons legible_flag <| .cons legible_flag <| .cons legible_values <| .cons legible_flag <|
    .cons legible_flag <| .cons legible_values <| .cons legible_values .nil, ?_⟩
  decide

end MarketQuery.Query.Catalog
