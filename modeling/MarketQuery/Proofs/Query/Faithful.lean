import MarketQuery.Proofs.Query.Accepted
import MarketQuery.Proofs.Query.Catalog.Clean
import MarketQuery.Proofs.Query.Catalog.Decoding
import MarketQuery.Proofs.Query.Nft.Clean
import MarketQuery.Proofs.Query.Nft.Decoding

namespace MarketQuery.Query

open Sql (Fragment)

/-- Two requests are compiled to the same text and values exactly if they ask for the same. -/
theorem same_statement_iff_same_constraints (c : Compiler) (hp : c.schemas.Plain)
    {f g : Filters.Catalog} (hf : f.check = .ok ()) (hg : g.check = .ok ()) :
    ∃ s t, c.catalog f = .ok s ∧ c.catalog g = .ok t ∧
      (s.sql = t.sql ∧ s.params = t.params ↔ Catalog.constraints f = Catalog.constraints g) := by
  refine ⟨⟨Catalog.body c.schemas c.marketplaces f⟩, ⟨Catalog.body c.schemas c.marketplaces g⟩,
    Catalog.statement_eq_ok_iff.mpr ⟨hf, rfl⟩, Catalog.statement_eq_ok_iff.mpr ⟨hg, rfl⟩, ?_, ?_⟩
  · rintro ⟨hsql, hparams⟩
    have hcf := Catalog.clean_body hp c.marketplaces f
    have hcg := Catalog.clean_body hp c.marketplaces g
    exact Catalog.body_inj (Fragment.eq_of_render_eq hcf.guarded hcg.guarded hsql hparams)
  · intro h
    rw [Catalog.body_congr c.schemas c.marketplaces h]
    exact ⟨rfl, rfl⟩

/-- One creator in a list, both genders one by one, a blank search and a key that is overridden ask
for the same as the shorter request; a direction that is heeded does not. -/
theorem same_statement_iff_same_constraints_spellings :
    let c : Compiler := ⟨{}, ["0xa"]⟩
    let f : Filters.Catalog :=
      { creator := some (.many ["0x1"]), wearableGenders := [.female, .male], search := some " ",
        isOnSale := some false, sortBy := some .cheapest, isSoldOut := some false }
    let g : Filters.Catalog :=
      { creator := some (.one "0x1"), wearableGenders := [.unisex], isOnSale := some false,
        sortBy := some .newest }
    let h : Filters.Catalog := { isOnSale := some true, sortBy := some .other }
    let k : Filters.Catalog := { h with sortDirection := some .asc }
    (∃ s t, c.catalog f = .ok s ∧ c.catalog g = .ok t ∧ s.sql = t.sql ∧ s.params = t.params) ∧
      ∃ s t, c.catalog h = .ok s ∧ c.catalog k = .ok t ∧
        ¬ (s.sql = t.sql ∧ s.params = t.params) := by
  intro c f g h k
  have hp : c.schemas.Plain := by
    intro role
    cases role <;> decide
  obtain ⟨s, t, hs, ht, hst⟩ := same_statement_iff_same_constraints c hp (f := f) (g := g) rfl rfl
  obtain ⟨u, v, hu, hv, huv⟩ := same_statement_iff_same_constraints c hp (f := h) (g := k) rfl rfl
  exact ⟨⟨s, t, hs, ht, hst.mpr (by decide +kernel)⟩, u, v, hu, hv, mt huv.mp (by decide +kernel)⟩

/-- Two requests for tokens are compiled to the same text and values exactly if they ask for the
same. -/
theorem same_token_statement_iff_same_constraints (c : Compiler) (hp : c.schemas.Plain)
    {f g : Filters.Nft} (hf : f.check = .ok ()) (hg : g.check = .ok ()) :
    ∃ s t, c.nfts f = .ok s ∧ c.nfts g = .ok t ∧
      (s.sql = t.sql ∧ s.params = t.params ↔ Nft.constraints f = Nft.constraints g) := by
  refine ⟨⟨Nft.body c.schemas c.marketplaces f⟩, ⟨Nft.body c.schemas c.marketplaces g⟩,
    Nft.statement_eq_ok_iff.mpr ⟨hf, rfl⟩, Nft.statement_eq_ok_iff.mpr ⟨hg, rfl⟩, ?_, ?_⟩
  · rintro ⟨hsql, hparams⟩
    have hcf := Nft.clean_body hp c.marketplaces f
    have hcg := Nft.clean_body hp c.marketplaces g
    exact Nft.body_inj (Fragment.eq_of_render_eq hcf.guarded hcg.guarded hsql hparams)
  · intro h
    rw [Nft.body_congr c.schemas c.marketplaces h]
    exact ⟨rfl, rfl⟩

/-- Creators in capital letters, a page of no tokens and a flag that is false ask for the same as
the shorter request; a token with a zero in front of its number is another one. -/
theorem same_token_statement_iff_same_constraints_spellings :
    let c : Compiler := ⟨{}, ["0xa"]⟩
    let f : Filters.Nft :=
      { creator := some (.many ["0xAB"]), emotePlayMode := [.loop, .loop], first := some 0,
        skip := some 0, search := some "\t", isOnSale := some false }
    let g : Filters.Nft :=
      { creator := some (.one "0xab"), emotePlayMode := [.loop], first := some 100 }
    let h : Filters.Nft := { tokenId := some "7", minEstateSize := some 1 }
    let k : Filters.Nft := { h with tokenId := some "07" }
    (∃ s t, c.nfts f = .ok s ∧ c.nfts g = .ok t ∧ s.sql = t.sql ∧ s.params = t.params) ∧
      ∃ s t, c.nfts h = .ok s ∧ c.nfts k = .ok t ∧ ¬ (s.sql = t.sql ∧ s.params = t.params) := by
  intro c f g h k
  have hp : c.schemas.Plain := by
    intro role
    cases role <;> decide
  obtain ⟨s, t, hs, ht, hst⟩ :=
    same_token_statement_iff_same_constraints c hp (f := f) (g := g) rfl rfl
  obtain ⟨u, v, hu, hv, huv⟩ :=
    same_token_statement_iff_same_constraints c hp (f := h) (g := k) rfl rfl
  exact ⟨⟨s, t, hs, ht, hst.mpr (by decide +kernel)⟩, u, v, hu, hv, mt huv.mp (by decide +kernel)⟩

end MarketQuery.Query
