import MarketQuery.Proofs.Query.Clean
import MarketQuery.Proofs.Query.Facets

namespace MarketQuery.Query.Catalog

open Condition (CleanIfAny clean_flag clean_twice clean_value clean_values)
open Sql (Fragment isClean)
open Sql.Fragment (Clean)

set_option maxRecDepth 10000

theorem clean_category (f : Filters.Catalog) : CleanIfAny (category f) := by
  intro x hx
  rw [category_eq] at hx
  cases hc : itemClass f <;> rw [hc] at hx <;> cases hx
  · exact .text_append (.literal rfl) (.literal rfl)
  · exact .text_append (.literal rfl) (.literal rfl)
  · exact .text_append (.literal rfl) (.literal rfl)

theorem clean_creator (f : Filters.Catalog) : CleanIfAny (creator f) := by
  intro x hx
  unfold creator at hx
  split at hx <;> cases hx
  · exact Clean.behind rfl (.bind _)
  · exact .value _ rfl rfl

theorem clean_isOnSale (f : Filters.Catalog) : CleanIfAny (isOnSale f) := by
  intro x hx
  obtain ⟨b, -, rfl⟩ := Option.map_eq_some_iff.mp hx
  cases b <;> exact .literal rfl

/-- No condition on catalog items can run into the number of a value, whatever is asked for. -/
theorem clean_conditions (f : Filters.Catalog) : ∀ c ∈ conditions, CleanIfAny (c.build f) := by
  simp only [conditions, List.forall_mem_cons]
  exact ⟨clean_category f, clean_values rfl, clean_creator f, clean_flag (.literal rfl),
    clean_isOnSale f, clean_flag (.literal rfl), clean_flag (.literal rfl), clean_value rfl rfl,
    clean_values rfl, clean_value rfl rfl, clean_value rfl rfl, clean_values rfl, clean_values rfl,
    clean_twice rfl rfl rfl, clean_twice rfl rfl rfl, clean_flag (.literal rfl),
    clean_flag (.literal rfl), clean_values rfl, clean_flag (.literal rfl),
    clean_flag (.literal rfl), clean_values rfl, clean_values rfl, by simp⟩

theorem clean_whereClause (f : Filters.Catalog) : Clean (whereClause f) := by
  refine Clean.append (.text_append (.literal rfl) (.literal rfl)) (.concat fun x hx => ?_)
  obtain ⟨p, hp, rfl⟩ := List.mem_map.mp hx
  exact Clean.behind rfl (Condition.clean_present (clean_conditions f) p hp)

theorem clean_rankedIds (f : Filters.Catalog) : CleanIfAny (Ordering.rankedIds f) := by
  intro x hx
  rw [Ordering.rankedIds] at hx
  split at hx <;> cases hx
  exact .value _ rfl rfl

theorem clean_inlineRank (inline : Bool) : CleanIfAny (Ordering.inlineRank inline) := by
  intro x hx
  rw [Ordering.inlineRank] at hx
  split at hx <;> cases hx
  exact .literal rfl

theorem clean_requested (f : Filters.Catalog) : CleanIfAny (Ordering.requested f) := by
  intro x hx
  rw [requested_eq] at hx
  obtain ⟨⟨key, direction⟩, -, rfl⟩ := Option.map_eq_some_iff.mp hx
  cases key
  case other => rcases direction with _ | _ | _ <;> exact .text_append (.literal rfl) (.literal rfl)
  all_goals exact .literal rfl

theorem clean_orderBy (f : Filters.Catalog) (inline : Bool) :
    CleanIfAny (Ordering.orderBy f inline) := by
  intro x hx
  obtain ⟨y, hy, rfl⟩ := Option.map_eq_some_iff.mp hx
  refine Clean.behind rfl (.join (.literal rfl) (fun z hz => ?_) hy)
  simp only [List.mem_filterMap, List.mem_cons, List.not_mem_nil, or_false, id] at hz
  obtain ⟨o, rfl | rfl | rfl, ho⟩ := hz
  · exact clean_rankedIds f z ho
  · exact clean_inlineRank inline z ho
  · exact clean_requested f z ho

theorem clean_pagination (f : Filters.Catalog) :
    CleanIfAny (Ordering.pagination f.limit f.offset) := by
  intro x hx
  rw [pagination_eq] at hx
  obtain ⟨p, -, rfl⟩ := Option.map_eq_some_iff.mp hx
  exact .page rfl rfl

theorem clean_lines {fs : List Fragment} (h : ∀ f ∈ fs, Clean f) :
    Clean (.concat (fs.map line)) := by
  refine .concat fun x hx => ?_
  obtain ⟨y, hy, rfl⟩ := List.mem_map.mp hx
  exact Clean.behind rfl (h y hy)

variable {schemas : Schemas} (h : schemas.Plain)

theorem clean_price (name comparison merged : String) (bound : Option String)
    (hc : Clean (.text comparison)) (hm : Clean (.text merged)) (hn : Clean (.text name)) :
    Clean (price name comparison bound merged) := by
  have htail : Clean (.text (" THEN " ++ merged ++ " ELSE nfts_with_orders." ++ name ++
      " END AS " ++ name)) :=
    .text_append (.text_append (.text_append (.text_append (.text_append (.literal rfl) hm)
      (.literal rfl)) hn) (.literal rfl)) hn
  cases bound with
  | none => exact (Clean.behind rfl .empty).append htail
  | some b =>
    have hcomparison : Clean (.text (" AND " ++ comparison)) := .text_append (.literal rfl) hc
    exact (Clean.behind rfl ((hcomparison.append (.bind _)).append (.literal rfl))).append htail

theorem clean_projection (f : Filters.Catalog) (plan : JoinPlan) :
    Clean (projection schemas f plan) := by
  have hcolumns : Clean (columns.fill schemas) := by
    apply Clean.fill
    simp only [columns, List.forall_mem_cons]
    exact ⟨.literal rfl, .literal rfl, .literal rfl, by simp⟩
  have howners : Clean (if plan.ownersCount then .text "\n\tnfts.owners_count," else .empty) := by
    split
    · exact .literal rfl
    · exact .empty
  have hmin := clean_price "min_price" "items.price >= "
    "LEAST(items.price, nfts_with_orders.min_price)" f.minPrice (.literal rfl) (.literal rfl)
    (.literal rfl)
  have hmax := clean_price "max_price" "items.price <= "
    "GREATEST(items.price, nfts_with_orders.max_price)" f.maxPrice (.literal rfl) (.literal rfl)
    (.literal rfl)
  exact ((((hcolumns.append howners).append (.literal rfl)).append hmin).append
    (.literal rfl)).append hmax

include h

theorem clean_orders (f : Filters.Catalog) : Clean (Join.orders schemas f) := by
  have hhead : Clean (Join.ordersHead.fill schemas) := by
    apply Clean.fill
    simp only [Join.ordersHead, List.forall_mem_cons]
    exact ⟨.literal rfl, .name h _, .literal rfl, by simp⟩
  have hbound {comparison : List Char} (hc : isClean comparison = true) (bound : Option String) :
      Clean (Join.orderBound (String.ofList comparison) bound) := by
    cases bound with
    | none => exact .empty
    | some b => exact .value _ hc rfl
  exact ((hhead.append (hbound rfl _)).append (hbound rfl _)).append (.literal rfl)

theorem clean_joins (f : Filters.Catalog) (plan : JoinPlan) :
    ∀ x ∈ Join.all schemas f plan, Clean x := by
  have howners : Clean (Join.owners schemas) := by
    apply Clean.fill
    simp only [Join.ownersText, List.forall_mem_cons]
    exact ⟨.literal rfl, .name h _, .literal rfl, by simp⟩
  have hmetadata : Clean (Join.metadata schemas) := by
    apply Clean.fill
    simp only [Join.metadataText, List.forall_mem_cons]
    exact ⟨.literal rfl, .name h _, .literal rfl, .name h _, .literal rfl, .name h _, .literal rfl,
      .name h _, .literal rfl, by simp⟩
  have hoffchain : Clean (.text Join.offchainOrders) := .literal rfl
  have hsearch : Clean (.text Join.searchCandidates) := .literal rfl
  intro x hx
  simp only [Join.all, List.mem_append, List.mem_cons, List.not_mem_nil, or_false,
    List.mem_ite_nil_right] at hx
  rcases hx with (⟨-, rfl⟩ | rfl | rfl | rfl) | ⟨-, rfl⟩
  · exact howners
  · exact clean_orders h f
  · exact hmetadata
  · exact hoffchain
  · exact hsearch

theorem clean_sources (marketplaces : List String) (f : Filters.Catalog) :
    ∀ x ∈ sources schemas marketplaces f, Clean x := by
  rw [sources_eq, List.forall_mem_cons]
  refine ⟨Source.clean_unifiedTrades h marketplaces, ?_⟩
  rw [rankingSources]
  split
  · intro x hx
    rcases List.mem_append.mp hx with hx | hx
    · exact Ranking.clean_sources h _ x hx
    · rw [List.mem_singleton.mp hx]
      exact Source.clean_searchCandidates h _ _
  · simp

/-- The statement that lists catalog items is clean. -/
theorem clean_body (marketplaces : List String) (f : Filters.Catalog) :
    Clean (body schemas marketplaces f) := by
  have htable : Clean (itemsTable.fill schemas) := by
    apply Clean.fill
    simp only [itemsTable, List.forall_mem_cons]
    exact ⟨.literal rfl, .name h _, .literal rfl, by simp⟩
  have hsources := clean_withClause (clean_sources h marketplaces f)
  have hprojection : Clean (projection schemas f (.of f)) := clean_projection f (.of f)
  have horder := clean_lines fun x hx =>
    clean_orderBy f (JoinPlan.of f).searchCandidates x (Option.mem_toList.mp hx)
  have hpage := clean_lines fun x hx => clean_pagination f x (Option.mem_toList.mp hx)
  have hjoins := clean_lines (clean_joins h f (.of f))
  exact (((((hsources.append (.behind rfl hprojection)).append htable).append hjoins).append
    (.behind rfl (clean_whereClause f))).append horder).append hpage

end MarketQuery.Query.Catalog
