import MarketQuery.Proofs.Query.Accepted
import MarketQuery.Proofs.Query.Catalog.Sketch
import MarketQuery.Proofs.Query.Nft.Sketch
import MarketQuery.Proofs.Sql.Places

namespace MarketQuery.Query

open Sql (Fits Fragment Param Segment Statement)

set_option maxRecDepth 100000

theorem Catalog.sketch_read : (sketch.val.read Sql.Place.reading ⟨[], false⟩).isSome = true := by
  decide +kernel

theorem Ranking.sketch_read : (sketch.val.read Sql.Place.reading ⟨[], false⟩).isSome = true := by
  decide +kernel

theorem Nft.sketch_read : (sketch.val.read Sql.Place.reading ⟨[], false⟩).isSome = true := by
  decide +kernel

/-- All values of a compiled statement sit well; the check of a request is what makes its prices and
its token fit for a cast. -/
theorem Compiler.Compiles.allSeated {c : Compiler} {s : Statement} (h : c.Compiles s) :
    Sql.AllSeated (c.marketplaces.map Text.lowercase) s.fragment.atoms := by
  rcases h with ⟨f, hf⟩ | ⟨f, hf⟩ | ⟨f, hf⟩
  · obtain ⟨hcheck, rfl⟩ := Catalog.statement_eq_ok_iff.mp hf
    exact (Catalog.sketch.property _ _ f hcheck).allSeated Catalog.sketch_read
  · obtain ⟨term, -, -, rfl⟩ := Ranking.statement_eq_ok_iff.mp hf
    exact (Ranking.sketch.property _ _ f term).allSeated Ranking.sketch_read
  · obtain ⟨hcheck, rfl⟩ := Nft.statement_eq_ok_iff.mp hf
    exact (Nft.sketch.property _ _ f hcheck).allSeated Nft.sketch_read

/-- Each value of a compiled statement fits between the text right before it and right behind it. -/
theorem values_fit_their_places {c : Compiler} {s : Statement} (h : c.Compiles s)
    {l r : List Segment} {p : Param} (hs : s.segments = l ++ .param p :: r) :
    Fits (c.marketplaces.map Text.lowercase) (Segment.textBefore l) p (Segment.textBehind r) :=
  h.allSeated.fits hs

/-- The token of a request stands in front of a cast. -/
theorem values_fit_their_places_token :
    let c : Compiler := ⟨{}, ["0xA"]⟩
    let f : Filters.Nft := { tokenId := some "7" }
    let s : Statement := ⟨Nft.body c.schemas c.marketplaces f⟩
    let x : Fragment := (withClause [Source.unifiedTrades c.schemas c.marketplaces]).getD .empty ++
      .text "\n" ++ Nft.rows.fill c.schemas ++ .text "\nWHERE " ++ .text "nft.token_id = "
    let y : Fragment := .text "::numeric" ++
      .text ("\nLIMIT " ++ toString (Nft.pageSize f) ++ " OFFSET " ++ toString (Nft.pageStart f))
    c.nfts f = .ok s ∧ s.segments = x.segments ++ .param (.text "7") :: y.segments ∧
      Fits ["0xa"] (Segment.textBefore x.segments) (.text "7") (Segment.textBehind y.segments) := by
  intro c f s x y
  have h : c.nfts f = .ok s := Nft.statement_eq_ok_iff.mpr ⟨by decide, rfl⟩
  have hwhere : Nft.whereClause f = .text "\nWHERE " ++
      (.text "nft.token_id = " ++ .bind (.text "7") ++ .text "::numeric" ++ .empty) := rfl
  have hs : s.segments = x.segments ++ .param (.text "7") :: y.segments := by
    rw [← Fragment.segments_bind]
    refine congrArg Fragment.segments ?_
    simp only [s, x, y, Nft.body, hwhere, Fragment.append_assoc, Fragment.empty_append]
  exact ⟨h, hs, values_fit_their_places (.inr (.inr ⟨f, h⟩)) hs⟩

end MarketQuery.Query
