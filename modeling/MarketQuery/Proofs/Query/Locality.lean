import MarketQuery.Proofs.Query.Catalog.Decoding
import MarketQuery.Proofs.Query.Conjunction
import Mathlib.Data.List.Nodup

namespace MarketQuery

namespace Filters

/-- The requests differ in one dimension at most. Whether wearables are to be smart belongs to the
dimension of the category; all other parts have the name of their dimension. -/
structure Catalog.DifferIn (d : String) (f g : Catalog) : Prop where
  category : d ≠ "category" → f.category = g.category
  isWearableSmart : d ≠ "category" → f.isWearableSmart = g.isWearableSmart
  rarities : d ≠ "rarities" → f.rarities = g.rarities
  creator : d ≠ "creator" → f.creator = g.creator
  contractAddresses : d ≠ "contractAddresses" → f.contractAddresses = g.contractAddresses
  ids : d ≠ "ids" → f.ids = g.ids
  urns : d ≠ "urns" → f.urns = g.urns
  search : d ≠ "search" → f.search = g.search
  wearableCategory : d ≠ "wearableCategory" → f.wearableCategory = g.wearableCategory
  wearableGenders : d ≠ "wearableGenders" → f.wearableGenders = g.wearableGenders
  isWearableHead : d ≠ "isWearableHead" → f.isWearableHead = g.isWearableHead
  isWearableAccessory : d ≠ "isWearableAccessory" → f.isWearableAccessory = g.isWearableAccessory
  emoteCategory : d ≠ "emoteCategory" → f.emoteCategory = g.emoteCategory
  emotePlayMode : d ≠ "emotePlayMode" → f.emotePlayMode = g.emotePlayMode
  emoteHasSound : d ≠ "emoteHasSound" → f.emoteHasSound = g.emoteHasSound
  emoteHasGeometry : d ≠ "emoteHasGeometry" → f.emoteHasGeometry = g.emoteHasGeometry
  emoteGenders : d ≠ "emoteGenders" → f.emoteGenders = g.emoteGenders
  isOnSale : d ≠ "isOnSale" → f.isOnSale = g.isOnSale
  isSoldOut : d ≠ "isSoldOut" → f.isSoldOut = g.isSoldOut
  onlyListing : d ≠ "onlyListing" → f.onlyListing = g.onlyListing
  onlyMinting : d ≠ "onlyMinting" → f.onlyMinting = g.onlyMinting
  minPrice : d ≠ "minPrice" → f.minPrice = g.minPrice
  maxPrice : d ≠ "maxPrice" → f.maxPrice = g.maxPrice
  network : d ≠ "network" → f.network = g.network
  limit : d ≠ "limit" → f.limit = g.limit
  offset : d ≠ "offset" → f.offset = g.offset
  sortBy : d ≠ "sortBy" → f.sortBy = g.sortBy
  sortDirection : d ≠ "sortDirection" → f.sortDirection = g.sortDirection

structure Nft.DifferIn (d : String) (f g : Nft) : Prop where
  category : d ≠ "category" → f.category = g.category
  owner : d ≠ "owner" → f.owner = g.owner
  tokenId : d ≠ "tokenId" → f.tokenId = g.tokenId
  itemId : d ≠ "itemId" → f.itemId = g.itemId
  network : d ≠ "network" → f.network = g.network
  emoteHasSound : d ≠ "emoteHasSound" → f.emoteHasSound = g.emoteHasSound
  emoteHasGeometry : d ≠ "emoteHasGeometry" → f.emoteHasGeometry = g.emoteHasGeometry
  minEstateSize : d ≠ "minEstateSize" → f.minEstateSize = g.minEstateSize
  maxEstateSize : d ≠ "maxEstateSize" → f.maxEstateSize = g.maxEstateSize
  wearableCategory : d ≠ "wearableCategory" → f.wearableCategory = g.wearableCategory
  emoteCategory : d ≠ "emoteCategory" → f.emoteCategory = g.emoteCategory
  isWearableHead : d ≠ "isWearableHead" → f.isWearableHead = g.isWearableHead
  isLand : d ≠ "isLand" → f.isLand = g.isLand
  isWearableAccessory : d ≠ "isWearableAccessory" → f.isWearableAccessory = g.isWearableAccessory
  isWearableSmart : d ≠ "isWearableSmart" → f.isWearableSmart = g.isWearableSmart
  contractAddresses : d ≠ "contractAddresses" → f.contractAddresses = g.contractAddresses
  search : d ≠ "search" → f.search = g.search
  minDistanceToPlaza : d ≠ "minDistanceToPlaza" → f.minDistanceToPlaza = g.minDistanceToPlaza
  maxDistanceToPlaza : d ≠ "maxDistanceToPlaza" → f.maxDistanceToPlaza = g.maxDistanceToPlaza
  adjacentToRoad : d ≠ "adjacentToRoad" → f.adjacentToRoad = g.adjacentToRoad
  emotePlayMode : d ≠ "emotePlayMode" → f.emotePlayMode = g.emotePlayMode
  emoteGenders : d ≠ "emoteGenders" → f.emoteGenders = g.emoteGenders
  wearableGenders : d ≠ "wearableGenders" → f.wearableGenders = g.wearableGenders
  creator : d ≠ "creator" → f.creator = g.creator
  ids : d ≠ "ids" → f.ids = g.ids
  itemRarities : d ≠ "itemRarities" → f.itemRarities = g.itemRarities
  minPrice : d ≠ "minPrice" → f.minPrice = g.minPrice
  maxPrice : d ≠ "maxPrice" → f.maxPrice = g.maxPrice
  isOnSale : d ≠ "isOnSale" → f.isOnSale = g.isOnSale
  first : d ≠ "first" → f.first = g.first
  skip : d ≠ "skip" → f.skip = g.skip

end Filters

namespace Query

open Condition (clause parts)
open Sql (Fragment)
open Sql.Fragment (append_assoc append_empty concat_append concat_cons concat_nil empty_append)

namespace Condition

variable {F : Type} {table : List (Condition F)} {f g : F} {d : String}

/-- The condition on a dimension, with the others around it. If these do not depend on that
dimension, they are the same in both requests. -/
theorem exists_split (hnodup : (table.map dimension).Nodup) (hd : d ∈ table.map dimension)
    (h : ∀ c ∈ table, d ≠ c.dimension → c.build f = c.build g) :
    ∃ before own behind, table = before ++ own :: behind ∧ own.dimension = d ∧
      (∀ c ∈ before, c.build f = c.build g) ∧ ∀ c ∈ behind, c.build f = c.build g := by
  obtain ⟨own, hown, rfl⟩ := List.mem_map.mp hd
  obtain ⟨before, behind, rfl⟩ := List.append_of_mem hown
  rw [List.map_append, List.map_cons, List.nodup_middle, List.nodup_cons, List.mem_append,
    not_or] at hnodup
  obtain ⟨⟨hbefore, hbehind⟩, -⟩ := hnodup
  refine ⟨before, own, behind, rfl, rfl, fun c hc => h c (List.mem_append_left _ hc) fun he => ?_,
    fun c hc => h c (List.mem_append_right _ (List.mem_cons_of_mem _ hc)) fun he => ?_⟩
  · exact hbefore (he ▸ List.mem_map_of_mem hc)
  · exact hbehind (he ▸ List.mem_map_of_mem hc)

theorem clause_split (before behind : List (Condition F)) (own : Condition F) (f : F) :
    clause (before ++ own :: behind) f = clause before f ++ (clause [own] f ++ clause behind f) := by
  rw [clause_append, ← List.singleton_append, clause_append]

theorem parts_split (before behind : List (Condition F)) (own : Condition F) (f : F) :
    parts (before ++ own :: behind) f =
      parts before f ++ ((own.build f).toList ++ parts behind f) := by
  rw [parts, present, List.filterMap_append, List.map_append, List.filterMap_cons]
  cases own.build f <;> rfl

theorem parts_congr (h : ∀ c ∈ table, c.build f = c.build g) : parts table f = parts table g := by
  have hp : present table f = present table g :=
    List.filterMap_congr fun c hc => by rw [h c hc]
  rw [parts, parts, hp]

end Condition

namespace Catalog

open Filters.Catalog (DifferIn)

variable {d : String} {f g : Filters.Catalog} {schemas : Schemas} {marketplaces : List String}

/-- The dimensions that decide on their own condition alone; of the network that is only so if no
search is ranked inside. -/
def plainDimensions : List String :=
  ["category", "rarities", "creator", "isSoldOut", "isWearableHead", "isWearableAccessory",
   "wearableCategory", "wearableGenders", "emoteCategory", "emotePlayMode", "emoteGenders",
   "contractAddresses", "onlyListing", "onlyMinting", "emoteHasSound", "emoteHasGeometry", "urns",
   "network"]

/-- All that stands before the first condition that may be missing: the named tables, the columns,
the joins and the base condition. -/
def opening (schemas : Schemas) (marketplaces : List String) (f : Filters.Catalog) : Fragment :=
  (withClause (sources schemas marketplaces f)).getD .empty ++
    line (projection schemas f (.of f)) ++
    itemsTable.fill schemas ++
    .concat ((Join.all schemas f (.of f)).map line) ++
    line (.text ("WHERE " ++ baseCondition))

def closing (f : Filters.Catalog) : Fragment :=
  .concat ((Ordering.orderBy f (JoinPlan.of f).searchCandidates).toList.map line) ++
    .concat ((Ordering.pagination f.limit f.offset).toList.map line)

theorem body_eq_around (schemas : Schemas) (marketplaces : List String) (f : Filters.Catalog) :
    body schemas marketplaces f =
      opening schemas marketplaces f ++ clause conditions f ++ closing f := by
  simp only [body, opening, closing, whereClause_eq, line, append_assoc]

/-- A condition reads no other dimension than its own. -/
theorem build_of_differIn (h : DifferIn d f g) :
    ∀ c ∈ conditions, d ≠ c.dimension → c.build f = c.build g := by
  simp only [conditions, List.forall_mem_cons]
  refine ⟨fun hd => ?category, fun hd => by rw [h.rarities hd], fun hd => ?creator,
    fun hd => by rw [h.isSoldOut hd], fun hd => by rw [isOnSale, isOnSale, h.isOnSale hd],
    fun hd => by rw [h.isWearableHead hd], fun hd => by rw [h.isWearableAccessory hd],
    fun hd => by rw [h.wearableCategory hd], fun hd => by rw [h.wearableGenders hd],
    fun hd => by rw [h.emoteCategory hd], fun hd => by rw [h.emotePlayMode hd],
    fun hd => by rw [h.emoteGenders hd], fun hd => by rw [h.contractAddresses hd],
    fun hd => by rw [h.minPrice hd], fun hd => by rw [h.maxPrice hd],
    fun hd => by rw [h.onlyListing hd], fun hd => by rw [h.onlyMinting hd],
    fun hd => by rw [h.ids hd], fun hd => by rw [h.emoteHasSound hd],
    fun hd => by rw [h.emoteHasGeometry hd], fun hd => by rw [h.urns hd],
    fun hd => by rw [h.network hd], fun _ hc => absurd hc List.not_mem_nil⟩
  case category => rw [category, category, h.category hd, h.isWearableSmart hd]
  case creator =>
    rw [creator, creator, Filters.Catalog.creators, Filters.Catalog.creators, h.creator hd]

section Plain

variable (hd : d ∈ plainDimensions) (h : DifferIn d f g)

include hd h

theorem ids_of_differIn : f.ids = g.ids := h.ids (ne_of_mem_of_not_mem hd (by decide))

theorem term_of_differIn : f.term? = g.term? := by
  rw [Filters.Catalog.term?, Filters.Catalog.term?,
    h.search (ne_of_mem_of_not_mem hd (by decide))]

/-- A plain dimension has no say in what is joined. -/
theorem plan_of_differIn : JoinPlan.of f = JoinPlan.of g := by
  rw [JoinPlan.of, JoinPlan.of, Filters.Catalog.searchesInline, Filters.Catalog.searchesInline,
    h.isOnSale (ne_of_mem_of_not_mem hd (by decide)), term_of_differIn hd h, ids_of_differIn hd h]

/-- The network of a search shows in its ranking; without a ranking nothing but the condition
depends on it. -/
theorem rankingSources_of_differIn (hnetwork : d = "network" → f.searchesInline = false) :
    rankingSources schemas f = rankingSources schemas g := by
  have hinline : inlineTerm f = inlineTerm g := by
    rw [inlineTerm, inlineTerm, ids_of_differIn hd h, term_of_differIn hd h]
  rw [rankingSources, rankingSources, ← hinline]
  cases hterm : inlineTerm f with
  | none => rfl
  | some term =>
    have hsearch : f.searchesInline = true := by rw [searchesInline_eq, hterm]; rfl
    have hne : d ≠ "network" := fun he => Bool.false_ne_true ((hnetwork he).symm.trans hsearch)
    rw [h.network hne]

/-- Nothing before the conditions changes with a plain dimension. -/
theorem opening_of_differIn (hnetwork : d = "network" → f.searchesInline = false) :
    opening schemas marketplaces f = opening schemas marketplaces g := by
  have hmin : f.minPrice = g.minPrice := h.minPrice (ne_of_mem_of_not_mem hd (by decide))
  have hmax : f.maxPrice = g.maxPrice := h.maxPrice (ne_of_mem_of_not_mem hd (by decide))
  have hplan := plan_of_differIn hd h
  have hprojection : projection schemas f (.of f) = projection schemas g (.of g) := by
    rw [projection, projection, hplan, hmin, hmax]
  rw [opening, opening, sources_eq, sources_eq, rankingSources_of_differIn hd h hnetwork,
    hprojection, joins_congr hplan hmin hmax]

/-- Nothing behind them does. -/
theorem closing_of_differIn : closing f = closing g := by
  have hsorting : Ordering.requested f = Ordering.requested g := by
    rw [Ordering.requested, Ordering.requested, Ordering.effective, Ordering.effective,
      h.isOnSale (ne_of_mem_of_not_mem hd (by decide)),
      h.sortBy (ne_of_mem_of_not_mem hd (by decide)),
      h.sortDirection (ne_of_mem_of_not_mem hd (by decide))]
  have hranked : Ordering.rankedIds f = Ordering.rankedIds g := by
    rw [Ordering.rankedIds, Ordering.rankedIds, term_of_differIn hd h, ids_of_differIn hd h]
  rw [closing, closing, Ordering.orderBy, Ordering.orderBy, plan_of_differIn hd h, hsorting, hranked,
    h.limit (ne_of_mem_of_not_mem hd (by decide)), h.offset (ne_of_mem_of_not_mem hd (by decide))]

end Plain

end Catalog

namespace Nft

open Filters.Nft (DifferIn)

variable {d : String} {f g : Filters.Nft}

def clauseOf : List Fragment → Fragment
  | [] => .empty
  | p :: ps => .text "\nWHERE " ++ joined p ps

/-- What one condition takes up between others: itself and a separator, or the keyword of the clause
if it stands alone. -/
def share : List Fragment → List Fragment → Option Fragment → Fragment
  | _, _, none => .empty
  | _ :: _, _, some x => .text separator ++ x
  | [], _ :: _, some x => x ++ .text separator
  | [], [], some x => .text "\nWHERE " ++ x

def front : List Fragment → List Fragment → Fragment
  | p :: ps, _ => .text "\nWHERE " ++ joined p ps
  | [], _ :: _ => .text "\nWHERE "
  | [], [] => .empty

def back : List Fragment → List Fragment → Fragment
  | _ :: _, qs => .concat (qs.map (.text separator ++ ·))
  | [], q :: qs => joined q qs
  | [], [] => .empty

theorem joined_append (p : Fragment) (ps qs : List Fragment) :
    joined p (ps ++ qs) = joined p ps ++ .concat (qs.map (.text separator ++ ·)) := by
  rw [joined, joined, List.map_append, concat_append, append_assoc]

theorem clauseOf_eq (ps qs : List Fragment) (x : Option Fragment) :
    clauseOf (ps ++ (x.toList ++ qs)) = front ps qs ++ share ps qs x ++ back ps qs := by
  cases ps with
  | cons p ps =>
    cases x with
    | none => simp only [clauseOf, front, share, back, List.cons_append, Option.toList_none,
        List.nil_append, joined_append, append_assoc, empty_append]
    | some x => simp only [clauseOf, front, share, back, List.cons_append, Option.toList_some,
        List.nil_append, joined_append, List.map_cons, concat_cons, append_assoc]
  | nil =>
    cases x with
    | none => cases qs <;> rfl
    | some x =>
      cases qs with
      | nil => simp only [clauseOf, front, share, back, joined, Option.toList_some, List.append_nil,
          List.nil_append, List.map_nil, concat_nil, append_empty, empty_append]
      | cons q qs => simp only [clauseOf, front, share, back, joined, Option.toList_some,
          List.nil_append, List.cons_append, List.map_cons, concat_cons, append_assoc]

theorem whereClause_eq_clauseOf (f : Filters.Nft) : whereClause f = clauseOf (parts conditions f) := by
  cases hparts : parts conditions f with
  | nil => exact whereClause_of_no_parts hparts
  | cons p ps => exact whereClause_of_parts hparts

def opening (schemas : Schemas) (marketplaces : List String) : Fragment :=
  (withClause [Source.unifiedTrades schemas marketplaces]).getD .empty ++
    .text "\n" ++ rows.fill schemas

theorem body_eq_around (schemas : Schemas) (marketplaces : List String) (f : Filters.Nft) :
    body schemas marketplaces f =
      opening schemas marketplaces ++ clauseOf (parts conditions f) ++ pageLine f := by
  rw [body, opening, whereClause_eq_clauseOf, pageLine]

/-- A condition reads no other dimension than its own. -/
theorem build_of_differIn (h : DifferIn d f g) :
    ∀ c ∈ conditions, d ≠ c.dimension → c.build f = c.build g := by
  simp only [conditions, List.forall_mem_cons]
  refine ⟨fun hd => by rw [h.category hd], fun hd => by rw [h.owner hd],
    fun hd => by rw [h.tokenId hd], fun hd => by rw [h.itemId hd], fun hd => by rw [h.network hd],
    fun hd => by rw [h.emoteHasSound hd], fun hd => by rw [h.emoteHasGeometry hd],
    fun hd => by rw [h.minEstateSize hd], fun hd => by rw [h.maxEstateSize hd],
    fun hd => by rw [h.emoteCategory hd], fun hd => by rw [h.wearableCategory hd],
    fun hd => by rw [h.isWearableHead hd], fun hd => by rw [h.isLand hd],
    fun hd => by rw [h.isWearableAccessory hd], fun hd => by rw [h.isWearableSmart hd],
    fun hd => by rw [h.contractAddresses hd],
    fun hd => by rw [Filters.Nft.term?, Filters.Nft.term?, h.search hd],
    fun hd => by rw [h.minDistanceToPlaza hd], fun hd => by rw [h.maxDistanceToPlaza hd],
    fun hd => by rw [h.adjacentToRoad hd], fun hd => by rw [h.emotePlayMode hd],
    fun hd => by rw [h.emoteGenders hd], fun hd => by rw [h.wearableGenders hd],
    fun hd => by rw [Filters.Nft.creators, Filters.Nft.creators, h.creator hd],
    fun hd => by rw [h.ids hd],
    fun hd => by rw [itemRarities, itemRarities, h.itemRarities hd],
    fun hd => by rw [h.minPrice hd], fun hd => by rw [h.maxPrice hd],
    fun hd => by rw [h.isOnSale hd], fun _ hc => absurd hc List.not_mem_nil⟩

/-- The page is no dimension. -/
theorem pageLine_of_differIn (hd : d ∈ conditions.map Condition.dimension) (h : DifferIn d f g) :
    pageLine f = pageLine g := by
  have hfirst : f.first = g.first := h.first (ne_of_mem_of_not_mem hd (by decide))
  have hskip : f.skip = g.skip := h.skip (ne_of_mem_of_not_mem hd (by decide))
  rw [pageLine, pageLine, pageSize, pageSize, pageStart, pageStart, hfirst, hskip]

end Nft

/-- Two requests that differ in one dimension have statements that differ in the condition on it.
What stands before and behind that condition is the same in both. -/
theorem dimension_touches_own_condition (c : Compiler) :
    (∀ d ∈ Catalog.plainDimensions, ∀ f g : Filters.Catalog, f.check = .ok () → g.check = .ok () →
      f.DifferIn d g → (d = "network" → f.searchesInline = false) →
      ∃ s t before own behind, c.catalog f = .ok s ∧ c.catalog g = .ok t ∧
        Catalog.conditions = before ++ own :: behind ∧ own.dimension = d ∧
        s.fragment = Catalog.opening c.schemas c.marketplaces f ++ clause before f ++
          clause [own] f ++ (clause behind f ++ Catalog.closing f) ∧
        t.fragment = Catalog.opening c.schemas c.marketplaces f ++ clause before f ++
          clause [own] g ++ (clause behind f ++ Catalog.closing f)) ∧
    (∀ d ∈ Nft.conditions.map Condition.dimension, ∀ f g : Filters.Nft,
      f.check = .ok () → g.check = .ok () → f.DifferIn d g →
      ∃ s t before own behind, c.nfts f = .ok s ∧ c.nfts g = .ok t ∧
        Nft.conditions = before ++ own :: behind ∧ own.dimension = d ∧
        let ps := parts before f
        let qs := parts behind f
        s.fragment = Nft.opening c.schemas c.marketplaces ++ Nft.front ps qs ++
          Nft.share ps qs (own.build f) ++ (Nft.back ps qs ++ Nft.pageLine f) ∧
        t.fragment = Nft.opening c.schemas c.marketplaces ++ Nft.front ps qs ++
          Nft.share ps qs (own.build g) ++ (Nft.back ps qs ++ Nft.pageLine f)) := by
  refine ⟨fun d hd f g hf hg h hnetwork => ?catalog, fun d hd f g hf hg h => ?nfts⟩
  case catalog =>
    have hdimensions : Catalog.plainDimensions ⊆ Catalog.conditions.map Condition.dimension := by
      decide
    obtain ⟨before, own, behind, hsplit, hown, hbefore, hbehind⟩ :=
      Condition.exists_split (by decide) (hdimensions hd) (Catalog.build_of_differIn h)
    refine ⟨_, _, before, own, behind, Catalog.statement_eq_ok_iff.mpr ⟨hf, rfl⟩,
      Catalog.statement_eq_ok_iff.mpr ⟨hg, rfl⟩, hsplit, hown, ?_, ?_⟩
    · rw [Catalog.body_eq_around, hsplit, Condition.clause_split]
      simp only [append_assoc]
    · rw [Catalog.body_eq_around, hsplit, Condition.clause_split,
        ← Catalog.opening_of_differIn hd h hnetwork, ← Catalog.closing_of_differIn hd h,
        ← Condition.clause_congr hbefore, ← Condition.clause_congr hbehind]
      simp only [append_assoc]
  case nfts =>
    obtain ⟨before, own, behind, hsplit, hown, hbefore, hbehind⟩ :=
      Condition.exists_split (by decide) hd (Nft.build_of_differIn h)
    refine ⟨_, _, before, own, behind, Nft.statement_eq_ok_iff.mpr ⟨hf, rfl⟩,
      Nft.statement_eq_ok_iff.mpr ⟨hg, rfl⟩, hsplit, hown, ?_, ?_⟩
    · rw [Nft.body_eq_around, hsplit, Condition.parts_split, Nft.clauseOf_eq]
      simp only [append_assoc]
    · rw [Nft.body_eq_around, hsplit, Condition.parts_split, Nft.clauseOf_eq,
        ← Nft.pageLine_of_differIn hd h, ← Condition.parts_congr hbefore,
        ← Condition.parts_congr hbehind]
      simp only [append_assoc]

/-- Rarities come and go in front of another condition, while a search is ranked inside; and so does
an owner, who is all that is asked for. -/
theorem dimension_touches_own_condition_owner :
    let c : Compiler := ⟨{}, ["0xa"]⟩
    let f : Filters.Catalog := { rarities := [.epic], urns := ["u"], search := some "hat" }
    let k : Filters.Nft := { owner := some "0x1", first := some 24 }
    (∃ s t x y, c.catalog f = .ok s ∧ c.catalog { f with rarities := [] } = .ok t ∧
      s.fragment = x ++ (.text separator ++ (.text "items.rarity = ANY(" ++
        .bind (.textArray ["epic"]) ++ .text ")")) ++ y ∧
      t.fragment = x ++ y) ∧
    ∃ s t x y, c.nfts k = .ok s ∧ c.nfts { k with owner := none } = .ok t ∧
      s.fragment = x ++ (.text "\nWHERE " ++ (.text "LOWER(account.address) = LOWER(" ++
        .bind (.text "0x1") ++ .text ")")) ++ y ∧
      t.fragment = x ++ y := by
  intro c f k
  obtain ⟨hcatalog, hnfts⟩ := dimension_touches_own_condition c
  refine ⟨?_, ?_⟩
  · have hdiffer : f.DifferIn "rarities" { f with rarities := [] } := by
      constructor <;> decide
    obtain ⟨s, t, before, own, behind, hs, ht, hsplit, hown, hold, hnew⟩ :=
      hcatalog "rarities" (by decide) f { f with rarities := [] } rfl rfl hdiffer nofun
    have hmem : own ∈ Catalog.conditions := hsplit ▸ List.mem_append_right _ (List.mem_cons_self ..)
    have hpresent : ∀ x ∈ Catalog.conditions, x.dimension = "rarities" →
        x.build f = some (.text "items.rarity = ANY(" ++ .bind (.textArray ["epic"]) ++
          .text ")") := by decide +kernel
    have habsent : ∀ x ∈ Catalog.conditions, x.dimension = "rarities" →
        x.build { f with rarities := [] } = none := by decide +kernel
    have hnil (f : Filters.Catalog) : clause [] f = .empty := rfl
    rw [Condition.clause_cons_some (hpresent own hmem hown), hnil, append_empty] at hold
    rw [Condition.clause_cons_none (habsent own hmem hown), hnil, append_empty] at hnew
    exact ⟨s, t, _, _, hs, ht, hold, hnew⟩
  · have hdiffer : k.DifferIn "owner" { k with owner := none } := by
      constructor <;> decide
    obtain ⟨s, t, before, own, behind, hs, ht, hsplit, hown, hold, hnew⟩ :=
      hnfts "owner" (by decide) k { k with owner := none } rfl rfl hdiffer
    have hmem : own ∈ Nft.conditions := hsplit ▸ List.mem_append_right _ (List.mem_cons_self ..)
    have hpresent : ∀ x ∈ Nft.conditions, x.dimension = "owner" → x.build k =
        some (.text "LOWER(account.address) = LOWER(" ++ .bind (.text "0x1") ++ .text ")") := by
      decide +kernel
    have habsent : ∀ x ∈ Nft.conditions, x.dimension = "owner" →
        x.build { k with owner := none } = none := by decide +kernel
    have halone : (parts Nft.conditions k).length = 1 := by decide +kernel
    rw [hsplit, Condition.parts_split, hpresent own hmem hown, List.length_append,
      List.length_append, Option.toList_some, List.length_singleton] at halone
    have hbefore : parts before k = [] := List.length_eq_zero_iff.mp (by omega)
    have hbehind : parts behind k = [] := List.length_eq_zero_iff.mp (by omega)
    rw [hbefore, hbehind, hpresent own hmem hown] at hold
    rw [hbefore, hbehind, habsent own hmem hown] at hnew
    refine ⟨s, t, _, _, hs, ht, hold, ?_⟩
    rw [hnew, Nft.share, append_empty]

end Query

end MarketQuery
