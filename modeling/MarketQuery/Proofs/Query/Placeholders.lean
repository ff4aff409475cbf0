import MarketQuery.Proofs.Query.Accepted
import MarketQuery.Proofs.Query.Catalog.Clean
import MarketQuery.Proofs.Query.Nft.Clean

namespace MarketQuery.Query

open Sql (Fragment Statement)

/-- Whatever is compiled is clean. -/
theorem Compiler.Compiles.clean {c : Compiler} {s : Statement} (h : c.Compiles s)
    (hp : c.schemas.Plain) : s.fragment.Clean := by
  rcases h with ⟨f, hf⟩ | ⟨f, hf⟩ | ⟨f, hf⟩
  · obtain ⟨-, rfl⟩ := Catalog.statement_eq_ok_iff.mp hf
    exact Catalog.clean_body hp _ f
  · obtain ⟨term, -, -, rfl⟩ := Ranking.statement_eq_ok_iff.mp hf
    exact Ranking.clean_body hp f term
  · obtain ⟨-, rfl⟩ := Nft.statement_eq_ok_iff.mp hf
    exact Nft.clean_body hp _ f

/-- The dollar signs of a compiled text number its values from left to right, and putting the values
in for them gives the segments of the statement. The tokens that are read for this are the whole
text, with nothing left out. -/
theorem placeholders_match_params {c : Compiler} (hp : c.schemas.Plain) {s : Statement}
    (h : c.Compiles s) :
    (Sql.Token.scan s.sql.toList).flatMap Sql.Token.chars = s.sql.toList ∧
      Sql.placeholders s.sql = (List.range' 1 s.params.length).map some ∧
      Sql.fill s.sql s.params = some s.segments := by
  obtain ⟨hguarded, -⟩ := h.clean hp
  exact ⟨Sql.Token.chars_scan _, Fragment.placeholders_render hguarded,
    Fragment.fill_render hguarded⟩

/-- With a value that ends a condition, and numbers behind it. -/
theorem placeholders_match_params_hats :
    let c : Compiler := ⟨{}, ["0xa"]⟩
    let f : Filters.Catalog :=
      { wearableCategory := some .hat, network := some .matic, limit := some 10, offset := some 0 }
    let s : Statement := ⟨Catalog.body c.schemas c.marketplaces f⟩
    c.catalog f = .ok s ∧
      (Sql.Token.scan s.sql.toList).flatMap Sql.Token.chars = s.sql.toList ∧
      Sql.placeholders s.sql = (List.range' 1 s.params.length).map some ∧
      Sql.fill s.sql s.params = some s.segments := by
  intro c f s
  have hp : c.schemas.Plain := by
    intro role
    cases role <;> decide
  have h : c.catalog f = .ok s := Catalog.statement_eq_ok_iff.mpr ⟨rfl, rfl⟩
  exact ⟨h, placeholders_match_params hp (.inl ⟨f, h⟩)⟩

end MarketQuery.Query
