import MarketQuery.Filters.Check

namespace MarketQuery.Filters

theorem then_eq_ok_iff {x y : Checked Unit} :
    (do x; y) = .ok () ↔ x = .ok () ∧ y = .ok () := by
  cases x with
  | error v => exact ⟨nofun, nofun⟩
  | ok u => exact ⟨fun h => ⟨rfl, h⟩, fun h => h.2⟩

theorem requireEntries_eq_ok_iff {field : ListField} {values : List String} :
    requireEntries field values = .ok () ↔ ∀ s ∈ values, Text.isBlank s = false := by
  rw [requireEntries]
  split
  · rename_i h
    obtain ⟨s, hs, hblank⟩ := List.any_eq_true.mp h
    exact ⟨nofun, fun hall => absurd hblank (by simp [hall s hs])⟩
  · rename_i h
    exact ⟨fun _ s hs => Bool.eq_false_iff.mpr fun hb => h (List.any_eq_true.mpr ⟨s, hs, hb⟩),
      fun _ => rfl⟩

theorem amount_of_requireAmount {field : PriceField} {value : Option String}
    (h : requireAmount field value = .ok ()) : ∀ s, value = some s → Decimal.isAmount s = true := by
  rintro s rfl
  rw [requireAmount] at h
  split at h
  · assumption
  · cases h

/-- Prices that pass are amounts, so they can be cast to numbers. -/
theorem amounts_of_requirePrices {min max : Option String} (h : requirePrices min max = .ok ()) :
    (∀ s, min = some s → Decimal.isAmount s = true) ∧
      ∀ s, max = some s → Decimal.isAmount s = true := by
  unfold requirePrices at h
  rw [then_eq_ok_iff, then_eq_ok_iff] at h
  exact ⟨amount_of_requireAmount h.1, amount_of_requireAmount h.2.1⟩

theorem amount_of_requireTokenId {value : Option String} (h : requireTokenId value = .ok ()) :
    ∀ s, value = some s → Decimal.isAmount s = true := by
  rintro s rfl
  rw [requireTokenId] at h
  split at h
  · assumption
  · cases h

namespace Catalog

/-- A request for catalog items passes exactly if it passes each part of its check. -/
theorem check_eq_ok_iff {f : Catalog} :
    f.check = .ok () ↔ requireEntries .creator f.creators = .ok () ∧
      requireEntries .contractAddresses f.contractAddresses = .ok () ∧
      requireEntries .ids f.ids = .ok () ∧ requireEntries .urns f.urns = .ok () ∧
      requirePrices f.minPrice f.maxPrice = .ok () ∧
      (if isSet f.onlyListing && isSet f.onlyMinting then .error .listingAndMinting
        else .ok () : Checked Unit) = .ok () := by
  simp only [check, then_eq_ok_iff]

theorem prices_of_check {f : Catalog} (h : f.check = .ok ()) :
    (∀ s, f.minPrice = some s → Decimal.isAmount s = true) ∧
      ∀ s, f.maxPrice = some s → Decimal.isAmount s = true := by
  obtain ⟨-, -, -, -, hprices, -⟩ := check_eq_ok_iff.mp h
  exact amounts_of_requirePrices hprices

end Catalog

namespace Nft

/-- So does a request for tokens, whose check has more parts. -/
theorem check_eq_ok_iff {f : Nft} :
    f.check = .ok () ↔ requireEntries .creator f.creators = .ok () ∧
      requireEntries .contractAddresses f.contractAddresses = .ok () ∧
      requireEntries .ids f.ids = .ok () ∧ requirePrices f.minPrice f.maxPrice = .ok () ∧
      requireTokenId f.tokenId = .ok () ∧
      requireBounds .minEstateSize f.minEstateSize f.maxEstateSize = .ok () ∧
      requireBounds .minDistanceToPlaza f.minDistanceToPlaza f.maxDistanceToPlaza = .ok () := by
  simp only [check, then_eq_ok_iff]

theorem prices_of_check {f : Nft} (h : f.check = .ok ()) :
    (∀ s, f.minPrice = some s → Decimal.isAmount s = true) ∧
      ∀ s, f.maxPrice = some s → Decimal.isAmount s = true := by
  obtain ⟨-, -, -, hprices, -⟩ := check_eq_ok_iff.mp h
  exact amounts_of_requirePrices hprices

theorem tokenId_of_check {f : Nft} (h : f.check = .ok ()) :
    ∀ s, f.tokenId = some s → Decimal.isAmount s = true := by
  obtain ⟨-, -, -, -, htoken, -⟩ := check_eq_ok_iff.mp h
  exact amount_of_requireTokenId htoken

end Nft

end MarketQuery.Filters
