import MarketQuery.Proofs.Query.Facets
import MarketQuery.Proofs.Sql.Outline

namespace MarketQuery.Query

open Filters (Network)
open Sql (Fragment Param)

namespace Condition

/-- Only whether there is a value shows. -/
theorem outline_value {before after : String} {v w : Option Param} (h : v.isSome = w.isSome) :
    (value before after v).map Fragment.outline = (value before after w).map Fragment.outline := by
  cases v <;> cases w <;> simp_all [value]

theorem outline_twice {before between after : String} {v w : Option Param}
    (h : v.isSome = w.isSome) :
    (twice before between after v).map Fragment.outline =
      (twice before between after w).map Fragment.outline := by
  cases v <;> cases w <;> simp_all [twice]

/-- Only whether there are values shows, and not how many. -/
theorem outline_values {before : String} {vs ws : List String} (h : vs.isEmpty = ws.isEmpty) :
    (values before vs).map Fragment.outline = (values before ws).map Fragment.outline := by
  rw [values, values, h]
  split <;> simp

theorem outline_flag {b c : Bool} {text : String} (h : b = c) :
    (flag b text).map Fragment.outline = (flag c text).map Fragment.outline := by
  rw [h]

/-- If no condition of a table tells two requests apart, the conditions that are present have the
same outlines. -/
theorem outline_present {F : Type} {table : List (Condition F)} {f g : F}
    (h : ∀ c ∈ table, (c.build f).map Fragment.outline = (c.build g).map Fragment.outline) :
    (present table f).map (·.2.outline) = (present table g).map (·.2.outline) := by
  induction table with
  | nil => rfl
  | cons c table ih =>
    rw [List.forall_mem_cons] at h
    obtain ⟨hc, h⟩ := h
    have ih := ih h
    simp only [present] at ih
    cases hf : c.build f <;> cases hg : c.build g <;>
      simp_all [present]

/-- Every network has a name in the index. -/
theorem outline_network {before : String} {m n : Option Network} (h : m.isSome = n.isSome) :
    (values before ((m.map Network.indexed).getD [])).map Fragment.outline =
      (values before ((n.map Network.indexed).getD [])).map Fragment.outline := by
  refine outline_values ?_
  cases m with
  | none => cases n <;> simp_all
  | some m =>
    cases n with
    | none => simp at h
    | some n => cases m <;> cases n <;> rfl

end Condition

section Parts

variable (schemas : Schemas)

theorem Source.outline_unifiedTrades (as bs : List String) :
    (unifiedTrades schemas as).outline = (unifiedTrades schemas bs).outline := by
  simp [unifiedTrades]

theorem Source.outline_builderServerItems (s t : String) :
    (builderServerItems schemas s).outline = (builderServerItems schemas t).outline := by
  simp [builderServerItems]

theorem outline_withClause {fs gs : List Fragment}
    (h : fs.map Fragment.outline = gs.map Fragment.outline) :
    ((withClause fs).getD .empty).outline = ((withClause gs).getD .empty).outline := by
  have hj := Fragment.outline_join ",\n" h
  rw [withClause, withClause]
  cases hf : Fragment.join ",\n" fs <;> cases hg : Fragment.join ",\n" gs <;>
    simp_all

theorem Ranking.outline_utilityBranch {s t : String} (h : mentionsUtility s = mentionsUtility t) :
    (utilityBranch schemas s).outline = (utilityBranch schemas t).outline := by
  rw [utilityBranch, utilityBranch, h]
  split <;> simp [utilityScore]

theorem Ranking.outline_candidateUnion {m n : Option Network} {s t : String}
    (h : rankingVariant m s = rankingVariant n t) :
    (candidateUnion schemas m s).outline = (candidateUnion schemas n t).outline := by
  simp only [rankingVariant, Prod.mk.injEq] at h
  obtain ⟨hu, hn⟩ := h
  simp [candidateUnion, tagOrNameBranch, outline_utilityBranch schemas hu,
    Source.latestMetadataJoin_congr hn]

theorem Ranking.outline_sources (s t : String) :
    (sources schemas s).map Fragment.outline = (sources schemas t).map Fragment.outline := by
  simp [sources, Source.outline_builderServerItems schemas s t]

end Parts

end MarketQuery.Query
