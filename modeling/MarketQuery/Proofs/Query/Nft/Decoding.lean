import MarketQuery.Proofs.Query.Nft.Constraints
import MarketQuery.Proofs.Sql.Placeholders

namespace MarketQuery.Query.Nft

open Sql (Fragment)
open Sql.Fragment

set_option maxRecDepth 4000

def pageLine (f : Filters.Nft) : Fragment :=
  .text ("\nLIMIT " ++ toString (pageSize f) ++ " OFFSET " ++ toString (pageStart f))

theorem pageLine_eq (f : Filters.Nft) :
    pageLine f =
      .text "\nLIMIT " ++ .text (toString (pageSize f) ++ " OFFSET " ++ toString (pageStart f)) := by
  simp only [pageLine, String.append_assoc, text_append]

theorem pageLine_inj {f g : Filters.Nft} (h : pageLine f = pageLine g) :
    pageSize f = pageSize g ∧ pageStart f = pageStart g := by
  rw [pageLine_eq, pageLine_eq, append_right_inj, text_inj] at h
  exact Sql.numbers_inj rfl h

theorem opens_pageLine (f : Filters.Nft) : Opens "\nLIMIT ".toList (pageLine f) := by
  rw [pageLine_eq]
  exact (opens_toList _).append _

variable {schemas : Schemas} {marketplaces : List String} {f g : Filters.Nft} {x y : Fragment}

/-- Whether there is a clause is read from what stands in front of it; then its first condition can
be taken for one that stands behind others. -/
theorem clause_of_whereClause (hx : ¬ Opens "\nWHERE ".toList x) (hy : ¬ Opens "\nWHERE ".toList y)
    (h : whereClause f ++ x = whereClause g ++ y) :
    Condition.clause conditions f ++ x = Condition.clause conditions g ++ y := by
  have hopens (z : Fragment) : Opens "\nWHERE ".toList (.text "\nWHERE " ++ z) :=
    (opens_toList _).append z
  rw [Condition.clause_eq_join, Condition.clause_eq_join]
  rw [whereClause, whereClause] at h
  generalize Fragment.join separator ((Condition.present conditions f).map (·.2)) = a at h ⊢
  generalize Fragment.join separator ((Condition.present conditions g).map (·.2)) = b at h ⊢
  cases a <;> cases b <;> simp only [empty_append, append_assoc, append_right_inj] at h
  · exact h
  · exact absurd (h ▸ hopens _) hx
  · exact absurd (h ▸ hopens _) hy
  · simp only [Option.elim_some, append_assoc, h]

theorem body_eq (schemas : Schemas) (marketplaces : List String) (f : Filters.Nft) :
    body schemas marketplaces f =
      (withClause [Source.unifiedTrades schemas marketplaces]).getD .empty ++ (.text "\n" ++
        (rows.fill schemas ++ (whereClause f ++ pageLine f))) := by
  simp only [body, append_assoc, pageLine]

/-- The constraints of a request for tokens can be read back from its statement. -/
theorem body_inj (h : body schemas marketplaces f = body schemas marketplaces g) :
    constraints f = constraints g := by
  rw [body_eq, body_eq, append_right_inj, append_right_inj, append_right_inj] at h
  have hwhere (f : Filters.Nft) : ¬ Opens "\nWHERE ".toList (pageLine f) :=
    fun ho => ho.ne (opens_pageLine f) (by decide) rfl
  have hseparator (f : Filters.Nft) : ¬ Opens separator.toList (pageLine f) :=
    fun ho => ho.ne (opens_pageLine f) (by decide) rfl
  obtain ⟨words, hlegible, hwords⟩ := legible_conditions
  obtain ⟨hbuild, hpage⟩ := Condition.clause_inj hlegible hwords (hseparator f) (hseparator g)
    (clause_of_whereClause (hwhere f) (hwhere g) h)
  obtain ⟨hsize, hstart⟩ := pageLine_inj hpage
  exact constraints_eq hbuild hsize hstart

/-- The statement shows nothing else of the request. -/
theorem body_congr (schemas : Schemas) (marketplaces : List String)
    (h : constraints f = constraints g) :
    body schemas marketplaces f = body schemas marketplaces g := by
  have hpresent : Condition.present conditions f = Condition.present conditions g :=
    List.filterMap_congr fun c hc => by rw [conditions_congr h c hc]
  have hsize : pageSize f = pageSize g := congrArg Constraints.pageSize h
  have hstart : pageStart f = pageStart g := congrArg Constraints.pageStart h
  rw [body, body, whereClause, whereClause, hpresent, hsize, hstart]

end MarketQuery.Query.Nft
