import MarketQuery.Proofs.Filters.Faults
import MarketQuery.Query.Compiler

namespace MarketQuery.Query

open Filters (Reports ReportsFirst tokenFaults)

/-- A ranking looks for a term before it looks at the ids, and at nothing else. -/
theorem Ranking.reports_statement (schemas : Schemas) (f : Filters.Catalog) :
    Reports f.rankingFaults (statement schemas f) := by
  rw [statement]
  cases hterm : f.term? with
  | none => exact .here (Filters.Catalog.term_eq_none_iff.mp hterm)
  | some term =>
    have hsearch : ¬ ∀ s ∈ f.search, Filters.Blank s := fun h => by
      rw [Filters.Catalog.term_eq_none_iff.mpr h] at hterm
      cases hterm
    have hnone : Reports [⟨.nothingToSearch, ∀ s ∈ f.search, Filters.Blank s⟩]
        (.ok () : Filters.Checked Unit) :=
      List.forall_mem_singleton.mpr hsearch
    exact hnone.then fun _ => (Filters.reports_requireEntries .ids Iff.rfl).guard _

/-- A compiler refuses a request exactly if something is wrong with it, and names the field of the
first thing that is wrong. -/
theorem first_fault_is_reported (c : Compiler) :
    (∀ f : Filters.Catalog, ReportsFirst (c.catalog f) f.faults ∧
      f.faults.map (·.violation.field) =
        ["creator", "contractAddresses", "ids", "urns", "minPrice", "maxPrice", "minPrice",
          "onlyListing"]) ∧
    (∀ f : Filters.Catalog, ReportsFirst (c.search f) f.rankingFaults ∧
      f.rankingFaults.map (·.violation.field) = ["search", "ids"]) ∧
    (∀ f : Filters.Nft, ReportsFirst (c.nfts f) f.faults ∧
      f.faults.map (·.violation.field) =
        ["creator", "contractAddresses", "ids", "minPrice", "maxPrice", "minPrice", "tokenId",
          "minEstateSize", "minDistanceToPlaza"]) ∧
    ∀ contractAddress tokenId network,
      ReportsFirst (c.nftByTokenId contractAddress tokenId network)
          (tokenFaults contractAddress tokenId) ∧
        (tokenFaults contractAddress tokenId).map (·.violation.field) =
          ["contractAddresses", "tokenId"] := by
  refine ⟨fun f => ⟨?_, rfl⟩, fun f => ⟨?_, rfl⟩, fun f => ⟨?_, rfl⟩,
    fun contractAddress tokenId network => ⟨?_, rfl⟩⟩
  · exact (f.reports_check.guard _).first
  · exact (Ranking.reports_statement c.schemas f).first
  · exact (f.reports_check.guard _).first
  · exact ((Filters.Nft.reports_check_ofTokenId contractAddress tokenId network).guard _).first

/-- Prices are the wrong way round too, but a blank identifier is looked for before. -/
theorem first_fault_is_reported_blank_id :
    let c : Compiler := ⟨{}, ["0xa"]⟩
    c.catalog { ids := ["\u2003"], minPrice := some "10", maxPrice := some "9" } =
      .error (.blankEntry .ids) := by
  intro c
  refine (((first_fault_is_reported c).1 _).1.error_iff _).mpr (.later ?_ (.later ?_ (.here ?_)))
  · exact nofun
  · exact nofun
  · exact ⟨"\u2003", List.mem_singleton_self _, Filters.isBlank_iff.mp (by decide)⟩

end MarketQuery.Query
