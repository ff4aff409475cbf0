import MarketQuery.Proofs.Query.Catalog.Decoding
import MarketQuery.Proofs.Query.Nft.Decoding
import MarketQuery.Proofs.Query.Sketch
import MarketQuery.Proofs.Query.Values
import MarketQuery.Proofs.Sql.Occurrence
import MarketQuery.Proofs.Sql.Scan

namespace MarketQuery.Query

open Sql (Fragment Statement)

set_option maxRecDepth 100000

/-- The statement has a table of the trades made off the chain. -/
def ReadsTrades (s : Statement) : Prop :=
  Sql.definition "unified_trades".toList <:+: s.sql.toList

theorem Catalog.head_params_body (schemas : Schemas) (marketplaces : List String)
    (f : Filters.Catalog) :
    (body schemas marketplaces f).params.head? =
      some (.textArray (marketplaces.map Text.lowercase)) := by
  rw [params_body]
  rfl

theorem Nft.head_params_body (schemas : Schemas) (marketplaces : List String) (f : Filters.Nft) :
    (body schemas marketplaces f).params.head? =
      some (.textArray (marketplaces.map Text.lowercase)) := by
  rw [body_eq, Fragment.params_append, withClause_cons]
  simp only [Fragment.params_append, Fragment.params_text, Source.params_unifiedTrades]
  rfl

/-- What stands in a part, wherever its values are counted from, stands in the whole text. -/
theorem infix_render_append {w : List Char} {y : Fragment}
    (h : ∀ m, w <:+: Fragment.renderAtoms m y.atoms) (x z : Fragment) :
    w <:+: (x ++ (y ++ z)).render.toList := by
  rw [Fragment.toList_render, Fragment.atoms_append, Fragment.renderAtoms_append,
    Fragment.atoms_append, Fragment.renderAtoms_append]
  exact ((h _).trans (List.prefix_append ..).isInfix).trans (List.suffix_append ..).isInfix

theorem Source.unifiedTradesSketch_holds :
    unifiedTradesSketch.val.holds (Sql.definition "unified_trades".toList) = true := by
  decide +kernel

/-- The table of trades is defined under the name by which its rows are taken from it. -/
theorem Source.definition_unifiedTrades (schemas : Schemas) (marketplaces : List String) (m : Nat) :
    Sql.definition "unified_trades".toList <:+:
      Fragment.renderAtoms m (unifiedTrades schemas marketplaces).atoms :=
  (unifiedTradesSketch.property schemas marketplaces).infix_of_holds unifiedTradesSketch_holds m

/-- A statement that lists catalog items defines the table of trades, whether or not it ranks them.
-/
theorem Catalog.readsTrades (schemas : Schemas) (marketplaces : List String)
    (f : Filters.Catalog) : ReadsTrades ⟨body schemas marketplaces f⟩ := by
  rw [ReadsTrades, Statement.sql, body_eq]
  exact infix_render_append (Source.definition_unifiedTrades schemas marketplaces) _ _

theorem Nft.readsTrades (schemas : Schemas) (marketplaces : List String) (f : Filters.Nft) :
    ReadsTrades ⟨body schemas marketplaces f⟩ := by
  rw [ReadsTrades, Statement.sql, body_eq, withClause_cons]
  simp only [Fragment.append_assoc]
  exact infix_render_append (Source.definition_unifiedTrades schemas marketplaces) _ _

theorem Ranking.sketch_lacks_trades :
    sketch.val.lacks (Sql.definition "unified_trades".toList)
      (fun b => b.any fun c => !Sql.isWordy c) = true := by
  decide +kernel

/-- The ranking of items defines no such table, and plain schema names cannot feign one. -/
theorem Ranking.not_readsTrades {schemas : Schemas} (hp : schemas.Plain) (f : Filters.Catalog)
    (term : String) : ¬ ReadsTrades ⟨body schemas f term⟩ := by
  rw [ReadsTrades, Statement.sql, Fragment.toList_render]
  exact (sketch.property schemas [] f term).not_infix_of_lacks
    (fun role _ hb => Sql.Scanner.not_infix_of_plain hp role hb) sketch_lacks_trades 0

/-- Items and tokens are listed with the trades that they are part of; only a ranking goes without.
-/
theorem Compiler.Compiles.readsTrades_iff {c : Compiler} {s : Statement} (h : c.Compiles s)
    (hp : c.schemas.Plain) :
    ReadsTrades s ↔ (∃ f, c.catalog f = .ok s) ∨ ∃ f, c.nfts f = .ok s := by
  constructor
  · intro hs
    rcases h with hf | ⟨f, hf⟩ | hf
    · exact .inl hf
    · obtain ⟨term, -, -, rfl⟩ := Ranking.statement_eq_ok_iff.mp hf
      exact absurd hs (Ranking.not_readsTrades hp f term)
    · exact .inr hf
  · rintro (⟨f, hf⟩ | ⟨f, hf⟩)
    · obtain ⟨-, rfl⟩ := Catalog.statement_eq_ok_iff.mp hf
      exact Catalog.readsTrades _ _ f
    · obtain ⟨-, rfl⟩ := Nft.statement_eq_ok_iff.mp hf
      exact Nft.readsTrades _ _ f

/-- The contracts that settings name are the first value of every statement that reads trades. -/
theorem Compiler.Compiles.head_params {c : Compiler} {s : Statement} (h : c.Compiles s)
    (hp : c.schemas.Plain) (hs : ReadsTrades s) :
    s.params.head? = some (.textArray (c.marketplaces.map Text.lowercase)) := by
  rcases (h.readsTrades_iff hp).mp hs with ⟨f, hf⟩ | ⟨f, hf⟩
  · obtain ⟨-, rfl⟩ := Catalog.statement_eq_ok_iff.mp hf
    exact Catalog.head_params_body _ _ f
  · obtain ⟨-, rfl⟩ := Nft.statement_eq_ok_iff.mp hf
    exact Nft.head_params_body _ _ f

end MarketQuery.Query
