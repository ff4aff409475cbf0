import MarketQuery.Proofs.Query.Outline

namespace MarketQuery.Query.Catalog

open Filters (Network SortDirection SortKey)
open Sql (Fragment)

/-- What a request for catalog items shows in the text of its statement. -/
structure Shape where
  itemClass : ItemClass
  noRarities : Bool
  creators : Multiplicity
  noContractAddresses : Bool
  noIds : Bool
  noUrns : Bool
  hasTerm : Bool
  hasWearableCategory : Bool
  hasEmoteCategory : Bool
  noWearableShapes : Bool
  noEmoteShapes : Bool
  hasPlayMode : Bool
  flags : Flags
  isOnSale : Option Bool
  hasMinPrice : Bool
  hasMaxPrice : Bool
  hasNetwork : Bool
  page : Option (UInt32 × UInt32)
  sorting : Option (SortKey × Option SortDirection)
  /-- Only a search that has not been ranked yet shows more of its term than that there is one. -/
  inlineRanking : Option (Bool × Bool)
  deriving DecidableEq

def shape (f : Filters.Catalog) : Shape where
  itemClass := itemClass f
  noRarities := f.rarities.isEmpty
  creators := .of f.creators
  noContractAddresses := f.contractAddresses.isEmpty
  noIds := f.ids.isEmpty
  noUrns := f.urns.isEmpty
  hasTerm := f.term?.isSome
  hasWearableCategory := f.wearableCategory.isSome
  hasEmoteCategory := f.emoteCategory.isSome
  noWearableShapes := (Filters.bodyShapes f.wearableGenders).isEmpty
  noEmoteShapes := (Filters.bodyShapes f.emoteGenders).isEmpty
  hasPlayMode := (Filters.singlePlayMode f.emotePlayMode).isSome
  flags := flags f
  isOnSale := f.isOnSale
  hasMinPrice := f.minPrice.isSome
  hasMaxPrice := f.maxPrice.isSome
  hasNetwork := f.network.isSome
  page := page f
  sorting := sorting f
  inlineRanking := (inlineTerm f).map (rankingVariant f.network)

theorem outline_creator {f g : Filters.Catalog}
    (h : Multiplicity.of f.creators = Multiplicity.of g.creators) :
    (creator f).map Fragment.outline = (creator g).map Fragment.outline := by
  rw [creator, creator]
  generalize f.creators = as at h ⊢
  generalize g.creators = bs at h ⊢
  rcases as with _ | ⟨_, _ | ⟨_, _⟩⟩ <;> rcases bs with _ | ⟨_, _ | ⟨_, _⟩⟩ <;>
    simp_all [Multiplicity.of]

/-- Of its values a condition shows no more than the shape of the request does. -/
theorem outline_conditions {f g : Filters.Catalog} (h : shape f = shape g) :
    ∀ c ∈ conditions, (c.build f).map Fragment.outline = (c.build g).map Fragment.outline := by
  simp only [shape, flags, Shape.mk.injEq, Flags.mk.injEq] at h
  obtain ⟨hclass, hrarities, hcreators, hcontracts, hids, hurns, -, hwearable, hemote, hwshapes,
    heshapes, hmode, ⟨hsold, hhead, haccessory, hlisting, hminting, hsound, hgeometry⟩, hsale,
    hmin, hmax, hnetwork, -, -, -⟩ := h
  simp only [conditions, List.forall_mem_cons]
  refine ⟨?category, ?rarities, outline_creator hcreators, Condition.outline_flag hsold, ?sale,
    Condition.outline_flag hhead, Condition.outline_flag haccessory, ?wearableCategory,
    Condition.outline_values hwshapes, ?emoteCategory, ?playMode,
    Condition.outline_values heshapes, Condition.outline_values hcontracts, ?minPrice, ?maxPrice,
    Condition.outline_flag hlisting, Condition.outline_flag hminting,
    Condition.outline_values hids, Condition.outline_flag hsound,
    Condition.outline_flag hgeometry, Condition.outline_values hurns,
    Condition.outline_network hnetwork, ?last⟩
  case category => rw [category_eq, category_eq, hclass]
  case rarities => exact Condition.outline_values (by simpa using hrarities)
  case sale => rw [isOnSale, isOnSale, hsale]
  case wearableCategory => exact Condition.outline_value (by simpa using hwearable)
  case emoteCategory => exact Condition.outline_value (by simpa using hemote)
  case playMode => exact Condition.outline_value (by simpa using hmode)
  case minPrice => exact Condition.outline_twice (by simpa using hmin)
  case maxPrice => exact Condition.outline_twice (by simpa using hmax)
  case last => simp

theorem searchesInline_of_shape {f g : Filters.Catalog} (h : shape f = shape g) :
    f.searchesInline = g.searchesInline := by
  have hr := congrArg (·.inlineRanking.isSome) h
  simpa [searchesInline_eq, shape] using hr

/-- Requests of one shape are joined with the same tables. -/
theorem plan_of_shape {f g : Filters.Catalog} (h : shape f = shape g) :
    JoinPlan.of f = JoinPlan.of g := by
  have hsale : f.isOnSale = g.isOnSale := congrArg Shape.isOnSale h
  rw [JoinPlan.of, JoinPlan.of, hsale, searchesInline_of_shape h]

theorem outline_price (name comparison merged : String) {a b : Option String}
    (h : a.isSome = b.isSome) :
    (price name comparison a merged).outline = (price name comparison b merged).outline := by
  cases a <;> cases b <;> simp_all [price]

theorem outline_projection (schemas : Schemas) {f g : Filters.Catalog} (h : shape f = shape g) :
    (projection schemas f (.of f)).outline = (projection schemas g (.of g)).outline := by
  have hmin := outline_price "min_price" "items.price >= "
    "LEAST(items.price, nfts_with_orders.min_price)" (congrArg Shape.hasMinPrice h)
  have hmax := outline_price "max_price" "items.price <= "
    "GREATEST(items.price, nfts_with_orders.max_price)" (congrArg Shape.hasMaxPrice h)
  rw [projection, projection, plan_of_shape h]
  simp only [Fragment.outline_append, hmin, hmax]

theorem outline_rankingSources (schemas : Schemas) {f g : Filters.Catalog}
    (h : shape f = shape g) :
    (rankingSources schemas f).map Fragment.outline =
      (rankingSources schemas g).map Fragment.outline := by
  have hr : (inlineTerm f).map (rankingVariant f.network) =
      (inlineTerm g).map (rankingVariant g.network) := congrArg Shape.inlineRanking h
  rw [rankingSources, rankingSources]
  cases hf : inlineTerm f with
  | none =>
    cases hg : inlineTerm g with
    | none => rfl
    | some t => simp [hf, hg] at hr
  | some s =>
    cases hg : inlineTerm g with
    | none => simp [hf, hg] at hr
    | some t =>
      simp only [hf, hg, Option.map_some, Option.some.injEq] at hr
      simp [Ranking.outline_sources schemas s t, Source.searchCandidates,
        Ranking.outline_candidateUnion schemas hr]

theorem outline_orders (schemas : Schemas) {f g : Filters.Catalog} (h : shape f = shape g) :
    (Join.orders schemas f).outline = (Join.orders schemas g).outline := by
  have hmin : f.minPrice.isSome = g.minPrice.isSome := congrArg Shape.hasMinPrice h
  have hmax : f.maxPrice.isSome = g.maxPrice.isSome := congrArg Shape.hasMaxPrice h
  cases hf : f.minPrice <;> cases hg : g.minPrice <;> cases hf' : f.maxPrice <;>
    cases hg' : g.maxPrice <;> simp_all [Join.orders, Join.orderBound]

theorem outline_joins (schemas : Schemas) {f g : Filters.Catalog} (h : shape f = shape g) :
    (Join.all schemas f (.of f)).map Fragment.outline =
      (Join.all schemas g (.of g)).map Fragment.outline := by
  rw [plan_of_shape h]
  simp only [Join.all, List.map_append, List.map_cons, outline_orders schemas h]

theorem outline_whereClause {f g : Filters.Catalog} (h : shape f = shape g) :
    (whereClause f).outline = (whereClause g).outline := by
  have hc := congrArg (fun os => (os.map ((Fragment.text separator).outline ++ ·)).flatten)
    (Condition.outline_present (outline_conditions h))
  simpa [whereClause, Function.comp_def] using hc

theorem outline_rankedIds {f g : Filters.Catalog} (h : shape f = shape g) :
    (Ordering.rankedIds f).map Fragment.outline = (Ordering.rankedIds g).map Fragment.outline := by
  have hterm : f.term?.isSome = g.term?.isSome := congrArg Shape.hasTerm h
  have hids : f.ids.isEmpty = g.ids.isEmpty := congrArg Shape.noIds h
  rw [Ordering.rankedIds, Ordering.rankedIds, hterm, hids]
  split <;> simp

theorem outline_orderBy {f g : Filters.Catalog} (h : shape f = shape g) :
    (Ordering.orderBy f (JoinPlan.of f).searchCandidates).map Fragment.outline =
      (Ordering.orderBy g (JoinPlan.of g).searchCandidates).map Fragment.outline := by
  have hsorting : sorting f = sorting g := congrArg Shape.sorting h
  rw [plan_of_shape h]
  generalize (JoinPlan.of g).searchCandidates = inline
  have hkeys : ([Ordering.rankedIds f, Ordering.inlineRank inline,
        Ordering.requested f].filterMap id).map Fragment.outline =
      ([Ordering.rankedIds g, Ordering.inlineRank inline,
        Ordering.requested g].filterMap id).map Fragment.outline := by
    have hr := outline_rankedIds h
    rw [requested_eq, requested_eq, hsorting]
    cases hf : Ordering.rankedIds f <;> cases hg : Ordering.rankedIds g <;>
      simp_all [List.filterMap_cons]
  have hb := congrArg (Option.map ((Fragment.text "ORDER BY ").outline ++ ·))
    (Fragment.outline_join ", " hkeys)
  simpa [Ordering.orderBy, Function.comp_def] using hb

theorem outline_lines {fs gs : List Fragment}
    (h : fs.map Fragment.outline = gs.map Fragment.outline) :
    (Fragment.concat (fs.map line)).outline = (Fragment.concat (gs.map line)).outline := by
  have hl := congrArg (fun os => (os.map ((Fragment.text "\n").outline ++ ·)).flatten) h
  simpa [line, Function.comp_def] using hl

/-- Requests of one shape have statements of one outline, whatever the contracts are. -/
theorem outline_body (schemas : Schemas) (as bs : List String) {f g : Filters.Catalog}
    (h : shape f = shape g) : (body schemas as f).outline = (body schemas bs g).outline := by
  have hsources : (sources schemas as f).map Fragment.outline =
      (sources schemas bs g).map Fragment.outline := by
    simp [sources_eq, Source.outline_unifiedTrades schemas as bs, outline_rankingSources schemas h]
  have hjoins := outline_lines (outline_joins schemas h)
  have horder : (Fragment.concat
        ((Ordering.orderBy f (JoinPlan.of f).searchCandidates).toList.map line)).outline =
      (Fragment.concat
        ((Ordering.orderBy g (JoinPlan.of g).searchCandidates).toList.map line)).outline := by
    apply outline_lines
    rw [← Option.toList_map, ← Option.toList_map, outline_orderBy h]
  have hpage : page f = page g := congrArg Shape.page h
  simp only [body, line, Fragment.outline_append, outline_withClause hsources,
    outline_projection schemas h, hjoins, outline_whereClause h, horder, pagination_eq, hpage]

end MarketQuery.Query.Catalog
