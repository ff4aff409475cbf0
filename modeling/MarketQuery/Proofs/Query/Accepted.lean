import MarketQuery.Proofs.Query.Facets
import MarketQuery.Proofs.Sql.Prefix
import MarketQuery.Query.Compiler
import MarketQuery.Sql.Batch

namespace MarketQuery.Query

open Sql (Fragment Statement)
open Sql.Fragment (Opens)

variable {schemas : Schemas} {marketplaces : List String} {s : Statement}

theorem guarded_eq_ok_iff {check : Filters.Checked Unit} {t : Statement} :
    (do check; return t) = Except.ok s ↔ check = .ok () ∧ s = t := by
  cases check with
  | error v => exact ⟨nofun, nofun⟩
  | ok u => exact ⟨fun h => ⟨rfl, (Except.ok.inj h).symm⟩, fun h => congrArg Except.ok h.2.symm⟩

/-- Requests are compiled exactly if they pass the check of their kind. -/
theorem Catalog.statement_eq_ok_iff {f : Filters.Catalog} :
    statement schemas marketplaces f = .ok s ↔
      f.check = .ok () ∧ s = ⟨body schemas marketplaces f⟩ :=
  guarded_eq_ok_iff

theorem Nft.statement_eq_ok_iff {f : Filters.Nft} :
    statement schemas marketplaces f = .ok s ↔
      f.check = .ok () ∧ s = ⟨body schemas marketplaces f⟩ :=
  guarded_eq_ok_iff

/-- A ranking needs a term. Of the request it checks no more than the ids. -/
theorem Ranking.statement_eq_ok_iff {f : Filters.Catalog} :
    statement schemas f = .ok s ↔
      ∃ term, f.term? = some term ∧ Filters.requireEntries .ids f.ids = .ok () ∧
        s = ⟨body schemas f term⟩ := by
  rw [statement]
  cases f.term? with
  | none => exact ⟨nofun, nofun⟩
  | some term =>
    refine guarded_eq_ok_iff.trans ⟨fun ⟨hids, hs⟩ => ⟨term, rfl, hids, hs⟩, ?_⟩
    rintro ⟨term', ht, hids, hs⟩
    cases ht
    exact ⟨hids, hs⟩

/-- What a compiler turns a request into: one of the three statements. -/
def Compiler.Compiles (c : Compiler) (s : Statement) : Prop :=
  (∃ f, c.catalog f = .ok s) ∨ (∃ f, c.search f = .ok s) ∨ ∃ f, c.nfts f = .ok s

/-- All statements begin with named tables. -/
theorem Compiler.Compiles.opens {c : Compiler} (h : c.Compiles s) : Opens ['W'] s.fragment := by
  have hwith : Opens ['W'] (.text "WITH ") := Fragment.opens_literal _ _
  rcases h with ⟨f, hf⟩ | ⟨f, hf⟩ | ⟨f, hf⟩
  · obtain ⟨-, rfl⟩ := Catalog.statement_eq_ok_iff.mp hf
    simp only [Catalog.body, Catalog.sources_eq, withClause_cons, Fragment.append_assoc]
    exact hwith.append _
  · obtain ⟨term, -, -, rfl⟩ := Ranking.statement_eq_ok_iff.mp hf
    simp only [Ranking.body, Ranking.sources, withClause_cons, Fragment.append_assoc]
    exact hwith.append _
  · obtain ⟨-, rfl⟩ := Nft.statement_eq_ok_iff.mp hf
    simp only [Nft.body, withClause_cons, Fragment.append_assoc]
    exact hwith.append _

/-- There is always something to send. -/
theorem Compiler.Compiles.not_vacuous {c : Compiler} (h : c.Compiles s) : s.isVacuous = false := by
  obtain ⟨r, hr⟩ := h.opens
  rw [Statement.isVacuous, Text.isBlank, Statement.sql, Fragment.render, String.toList_ofList, ← hr]
  rfl

end MarketQuery.Query
