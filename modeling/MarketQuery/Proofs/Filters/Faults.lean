import MarketQuery.Filters.Check
import MarketQuery.Proofs.Decimal.Order
import MarketQuery.Proofs.Text.Normal

namespace MarketQuery.Filters

open Decimal (Amount compareAmounts compareAmounts_eq isAmount_iff value)

def Blank (s : String) : Prop := ∀ c ∈ s.toList, Text.isSpace c = true

theorem isBlank_iff {s : String} : Text.isBlank s = true ↔ Blank s := List.all_eq_true

/-- Something that can be wrong: what is reported then, and when it is so. -/
structure Fault where
  violation : Violation
  Holds : Prop

/-- What is reported of the first fault that holds. -/
inductive FirstFault : List Fault → Violation → Prop
  | here {fault : Fault} {rest : List Fault} (h : fault.Holds) :
    FirstFault (fault :: rest) fault.violation
  | later {fault : Fault} {rest : List Fault} {v : Violation} (h : ¬ fault.Holds)
    (hrest : FirstFault rest v) : FirstFault (fault :: rest) v

/-- Fails exactly if a fault holds, and reports the first that does. -/
structure ReportsFirst {α : Type} (x : Checked α) (faults : List Fault) : Prop where
  fails_iff : (∃ v, x = .error v) ↔ ∃ fault ∈ faults, fault.Holds
  error_iff : ∀ v, x = .error v ↔ FirstFault faults v

namespace FirstFault

variable {fs gs : List Fault} {v w : Violation}

theorem holds (h : FirstFault fs v) : ∃ fault ∈ fs, fault.Holds := by
  induction h with
  | here h => exact ⟨_, List.mem_cons_self .., h⟩
  | later _ _ ih =>
    obtain ⟨fault, hmem, hfault⟩ := ih
    exact ⟨fault, List.mem_cons_of_mem _ hmem, hfault⟩

/-- There is one first fault at most. -/
theorem unique (h : FirstFault fs v) (h' : FirstFault fs w) : v = w := by
  induction h with
  | here h =>
    cases h' with
    | here => rfl
    | later hn => exact absurd h hn
  | later hn _ ih =>
    cases h' with
    | here h => exact absurd h hn
    | later _ hrest => exact ih hrest

theorem append (h : FirstFault fs v) (gs : List Fault) : FirstFault (fs ++ gs) v := by
  induction h with
  | here h => exact .here h
  | later hn _ ih => exact .later hn ih

/-- The first fault behind others that do not hold is the first of all. -/
theorem behind (hfs : ∀ fault ∈ fs, ¬ fault.Holds) (h : FirstFault gs v) :
    FirstFault (fs ++ gs) v := by
  induction fs with
  | nil => exact h
  | cons fault fs ih =>
    rw [List.forall_mem_cons] at hfs
    exact .later hfs.1 (ih hfs.2)

end FirstFault

section Reports

variable {α : Type} {x : Checked α} {fs gs : List Fault} {v : Violation}

def Reports (fs : List Fault) : Checked α → Prop
  | .ok _ => ∀ fault ∈ fs, ¬ fault.Holds
  | .error v => FirstFault fs v

theorem Reports.first (h : Reports fs x) : ReportsFirst x fs := by
  cases x with
  | ok a =>
    refine ⟨⟨nofun, fun ⟨fault, hmem, hfault⟩ => absurd hfault (h fault hmem)⟩, fun v => ⟨nofun, ?_⟩⟩
    intro hfirst
    obtain ⟨fault, hmem, hfault⟩ := hfirst.holds
    exact absurd hfault (h fault hmem)
  | error w =>
    have hfirst : FirstFault fs w := h
    refine ⟨⟨fun _ => hfirst.holds, fun _ => ⟨w, rfl⟩⟩, fun v => ⟨?_, fun hv => ?_⟩⟩
    · rintro ⟨⟩
      exact hfirst
    · rw [hfirst.unique hv]

/-- A check that finds nothing lets through. -/
theorem Reports.eq_ok_iff {x : Checked Unit} (h : Reports fs x) :
    x = .ok () ↔ ∀ fault ∈ fs, ¬ fault.Holds := by
  cases x with
  | ok u => exact iff_of_true rfl h
  | error v =>
    obtain ⟨fault, hmem, hfault⟩ := FirstFault.holds h
    exact iff_of_false nofun fun hnone => hnone fault hmem hfault

/-- A second check is only made if the first one has found nothing. -/
theorem Reports.then {x : Checked Unit} {y : Checked α} (hx : Reports fs x)
    (hy : (∀ fault ∈ fs, ¬ fault.Holds) → Reports gs y) : Reports (fs ++ gs) (do x; y) := by
  cases x with
  | error v => exact FirstFault.append hx gs
  | ok u =>
    have hnone : ∀ fault ∈ fs, ¬ fault.Holds := hx
    have hrest := hy hnone
    cases y with
    | error v => exact FirstFault.behind hnone hrest
    | ok a => exact List.forall_mem_append.mpr ⟨hnone, hrest⟩

/-- What is made of a request that passes its check does not matter. -/
theorem Reports.guard {x : Checked Unit} (h : Reports fs x) (a : α) :
    Reports fs (do x; return a) := by
  cases x <;> exact h

theorem reports_nil (a : α) : Reports [] (.ok a : Checked α) := List.forall_mem_nil _

theorem reports_if {b : Prop} [Decidable b] {P : Prop} (h : b ↔ P) :
    Reports [⟨v, P⟩] (if b then .error v else .ok () : Checked Unit) := by
  split
  · exact .here (h.mp ‹_›)
  · exact List.forall_mem_singleton.mpr (mt h.mpr ‹_›)

theorem reports_unless {b : Prop} [Decidable b] {P : Prop} (h : ¬ b ↔ P) :
    Reports [⟨v, P⟩] (if b then .ok () else .error v : Checked Unit) := by
  split
  · exact List.forall_mem_singleton.mpr fun hp => absurd ‹_› (h.mpr hp)
  · exact .here (h.mp ‹_›)

end Reports

section Steps

variable {P : Prop}

theorem reports_requireEntries (field : ListField) {values : List String}
    (h : (∃ s ∈ values, Blank s) ↔ P) :
    Reports [⟨.blankEntry field, P⟩] (requireEntries field values) := by
  refine reports_if ?_
  rw [List.any_eq_true, ← h]
  simp only [isBlank_iff]

theorem reports_requireAmount (field : PriceField) (price : Option String) :
    Reports [⟨.notAnAmount field (price.getD ""), ∃ s ∈ price, ¬ Amount s⟩]
      (requireAmount field price) := by
  cases price with
  | none => exact List.forall_mem_singleton.mpr nofun
  | some s => exact reports_unless (by simp [isAmount_iff])

def priceFaults (min max : Option String) : List Fault :=
  [⟨.notAnAmount .minPrice (min.getD ""), ∃ s ∈ min, ¬ Amount s⟩,
   ⟨.notAnAmount .maxPrice (max.getD ""), ∃ s ∈ max, ¬ Amount s⟩,
   ⟨.pricesInverted, ∃ low ∈ min, ∃ high ∈ max, value high < value low⟩]

/-- Prices are looked at one by one before they are compared. -/
theorem reports_requirePrices (min max : Option String) :
    Reports (priceFaults min max) (requirePrices min max) := by
  refine (reports_requireAmount .minPrice min).then fun hmin =>
    (reports_requireAmount .maxPrice max).then fun hmax => ?_
  cases min with
  | none => exact List.forall_mem_singleton.mpr nofun
  | some low =>
    cases max with
    | none => exact List.forall_mem_singleton.mpr (by simp)
    | some high =>
      -- Only amounts are compared as the numbers that they denote.
      have hlow : Amount low := by simpa using hmin
      have hhigh : Amount high := by simpa using hmax
      refine reports_if ?_
      rw [compareAmounts_eq hlow.2 hhigh.2, compare_gt_iff_gt]
      simp

theorem reports_requireTokenId {tokenId : Option String} (h : (∃ s ∈ tokenId, ¬ Amount s) ↔ P) :
    Reports [⟨.tokenIdNotDecimal, P⟩] (requireTokenId tokenId) := by
  cases tokenId with
  | none => exact List.forall_mem_singleton.mpr fun hp => by simpa using h.mpr hp
  | some s => exact reports_unless (by simp [← h, isAmount_iff])

/-- Bounds are compared as integers, and only if both are given. -/
theorem reports_requireBounds (field : BoundsField) (min max : Option Int64) :
    Reports [⟨.boundsInverted field, ∃ low ∈ min, ∃ high ∈ max, high.toInt < low.toInt⟩]
      (requireBounds field min max) := by
  cases min with
  | none => exact List.forall_mem_singleton.mpr nofun
  | some low =>
    cases max with
    | none => exact List.forall_mem_singleton.mpr (by simp)
    | some high => exact reports_if (by simp [Int64.lt_iff_toInt_lt])

end Steps

/-- A range of prices is let through if its bounds are amounts, and the lower one is not above the
upper one. -/
theorem requirePrices_eq_ok_iff {min max : Option String} :
    requirePrices min max = .ok () ↔ (∀ s ∈ min, Amount s) ∧ (∀ s ∈ max, Amount s) ∧
      ∀ low ∈ min, ∀ high ∈ max, value low ≤ value high := by
  rw [(reports_requirePrices min max).eq_ok_iff, priceFaults, List.forall_mem_cons,
    List.forall_mem_cons, List.forall_mem_singleton]
  simp only [not_exists, not_and, not_not, Nat.not_lt]

/-- Amounts of any length are compared as the numbers that they denote, so a range of prices is let
through exactly if its bounds are amounts and no bound is on the wrong side of the other. However
many zeros are written for zero, it is the same amount. -/
theorem prices_compare_as_numbers :
    (∀ a b : String, (∀ c ∈ a.toList, c.isDigit = true) → (∀ c ∈ b.toList, c.isDigit = true) →
      compareAmounts a b = compare (value a) (value b)) ∧
    (∀ min max : Option String, requirePrices min max = .ok () ↔
      (∀ s ∈ min, Amount s) ∧ (∀ s ∈ max, Amount s) ∧
        ∀ low ∈ min, ∀ high ∈ max, value low ≤ value high) ∧
    ∀ m n : Nat, compareAmounts (String.ofList (List.replicate m '0'))
      (String.ofList (List.replicate n '0')) = .eq := by
  refine ⟨fun a b => compareAmounts_eq, fun min max => requirePrices_eq_ok_iff, fun m n => ?_⟩
  have hdigits (k : Nat) : ∀ c ∈ (String.ofList (List.replicate k '0')).toList,
      c.isDigit = true := by
    rw [String.toList_ofList]
    intro c hc
    rw [List.eq_of_mem_replicate hc]
    rfl
  have hzero (k : Nat) : value (String.ofList (List.replicate k '0')) = 0 := by
    rw [value, String.toList_ofList, Decimal.number, Nat.ofDigitChars_replicate_zero, Nat.mul_zero]
  rw [compareAmounts_eq (hdigits m) (hdigits n), hzero, hzero]
  rfl

/-- Amounts that no machine word holds, one of them with zeros in front. -/
theorem prices_compare_as_numbers_wei :
    compareAmounts "00100000000000000000000" "99999999999999999999" = .gt ∧
    requirePrices (some "99999999999999999999") (some "00100000000000000000000") = .ok () ∧
    requirePrices (some "00100000000000000000000") (some "99999999999999999999") ≠ .ok () ∧
    compareAmounts "00" "000" = .eq := by
  obtain ⟨hcompare, haccept, hzeros⟩ := prices_compare_as_numbers
  have hlow : value "99999999999999999999" = 99999999999999999999 := by decide +kernel
  have hhigh : value "00100000000000000000000" = 100000000000000000000 := by decide +kernel
  have hlowAmount : Amount "99999999999999999999" := isAmount_iff.mp (by decide +kernel)
  have hhighAmount : Amount "00100000000000000000000" := isAmount_iff.mp (by decide +kernel)
  refine ⟨?_, (haccept _ _).mpr ?_, fun h => ?_, hzeros 2 3⟩
  · rw [hcompare _ _ hhighAmount.2 hlowAmount.2, hlow, hhigh]
    decide +kernel
  · simp only [Option.mem_some_iff, forall_eq', hlow, hhigh]
    exact ⟨hlowAmount, hhighAmount, by decide⟩
  · have hle := ((haccept _ _).mp h).2.2 _ rfl _ rfl
    rw [hlow, hhigh] at hle
    exact absurd hle (by decide)

def Catalog.faults (f : Catalog) : List Fault :=
  [⟨.blankEntry .creator, ∃ s ∈ f.creators, Blank s⟩,
   ⟨.blankEntry .contractAddresses, ∃ s ∈ f.contractAddresses, Blank s⟩,
   ⟨.blankEntry .ids, ∃ s ∈ f.ids, Blank s⟩,
   ⟨.blankEntry .urns, ∃ s ∈ f.urns, Blank s⟩] ++
  priceFaults f.minPrice f.maxPrice ++
  [⟨.listingAndMinting, f.onlyListing = some true ∧ f.onlyMinting = some true⟩]

def Catalog.rankingFaults (f : Catalog) : List Fault :=
  [⟨.nothingToSearch, ∀ s ∈ f.search, Blank s⟩,
   ⟨.blankEntry .ids, ∃ s ∈ f.ids, Blank s⟩]

def Nft.faults (f : Nft) : List Fault :=
  [⟨.blankEntry .creator, ∃ s ∈ f.creators, Blank s⟩,
   ⟨.blankEntry .contractAddresses, ∃ s ∈ f.contractAddresses, Blank s⟩,
   ⟨.blankEntry .ids, ∃ s ∈ f.ids, Blank s⟩] ++
  priceFaults f.minPrice f.maxPrice ++
  [⟨.tokenIdNotDecimal, ∃ s ∈ f.tokenId, ¬ Amount s⟩,
   ⟨.boundsInverted .minEstateSize,
     ∃ low ∈ f.minEstateSize, ∃ high ∈ f.maxEstateSize, high.toInt < low.toInt⟩,
   ⟨.boundsInverted .minDistanceToPlaza,
     ∃ low ∈ f.minDistanceToPlaza, ∃ high ∈ f.maxDistanceToPlaza, high.toInt < low.toInt⟩]

def tokenFaults (contractAddress tokenId : String) : List Fault :=
  [⟨.blankEntry .contractAddresses, Blank contractAddress⟩,
   ⟨.tokenIdNotDecimal, ¬ Amount tokenId⟩]

/-- The check of a request for catalog items goes through its faults in their order. -/
theorem Catalog.reports_check (f : Catalog) : Reports f.faults f.check := by
  have hflags : (isSet f.onlyListing && isSet f.onlyMinting) = true ↔
      f.onlyListing = some true ∧ f.onlyMinting = some true := by
    simp [isSet]
  exact (reports_requireEntries .creator Iff.rfl).then fun _ =>
    (reports_requireEntries .contractAddresses Iff.rfl).then fun _ =>
    (reports_requireEntries .ids Iff.rfl).then fun _ =>
    (reports_requireEntries .urns Iff.rfl).then fun _ =>
    (reports_requirePrices f.minPrice f.maxPrice).then fun _ => reports_if hflags

/-- So does the check of a request for tokens. -/
theorem Nft.reports_check (f : Nft) : Reports f.faults f.check :=
  (reports_requireEntries .creator Iff.rfl).then fun _ =>
  (reports_requireEntries .contractAddresses Iff.rfl).then fun _ =>
  (reports_requireEntries .ids Iff.rfl).then fun _ =>
  (reports_requirePrices f.minPrice f.maxPrice).then fun _ =>
  (reports_requireTokenId Iff.rfl).then fun _ =>
  (reports_requireBounds .minEstateSize _ _).then fun _ =>
  reports_requireBounds .minDistanceToPlaza _ _

/-- A request for one token has nothing else in it that could be wrong. -/
theorem Nft.reports_check_ofTokenId (contractAddress tokenId : String) (network : Network) :
    Reports (tokenFaults contractAddress tokenId)
      (Nft.ofTokenId contractAddress tokenId network).check :=
  (reports_nil ()).then fun _ =>
  (reports_requireEntries .contractAddresses (by simp [ofTokenId])).then fun _ =>
  (reports_nil ()).then fun _ => (reports_nil ()).then fun _ =>
  (reports_requireTokenId (by simp [ofTokenId])).then fun _ =>
  (reports_nil ()).then fun _ => reports_nil ()

theorem Catalog.term_eq_none_iff {f : Catalog} : f.term? = none ↔ ∀ s ∈ f.search, Blank s := by
  rw [term?, searchTerm]
  cases f.search with
  | none => exact ⟨fun _ => nofun, fun _ => rfl⟩
  | some s => simp [Option.filter, ← isBlank_iff, Text.isBlank_iff_trim_eq_empty]

end MarketQuery.Filters
