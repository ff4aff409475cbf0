import MarketQuery.Proofs.Query.Catalog.Closing
import MarketQuery.Proofs.Query.Catalog.Constraints

namespace MarketQuery.Query

open Filters (Network)
open Sql (Fragment Param)
open Sql.Fragment

set_option maxRecDepth 4000

theorem Source.latestMetadataJoin_eq (m : Option Network) :
    latestMetadataJoin m =
      .text "LEFT JOIN latest_metadata ON latest_metadata.item_id = items." ++
        .text (if m = some .ethereum then "metadata" else "id") := by
  rw [← text_append]
  rcases m with _ | _ | _ <;> rfl

theorem Source.latestMetadataJoin_inj {m n : Option Network} {x y : Fragment}
    (h : latestMetadataJoin m ++ x = latestMetadataJoin n ++ y) :
    latestMetadataJoin m = latestMetadataJoin n := by
  rw [latestMetadataJoin_eq, latestMetadataJoin_eq, append_assoc, append_assoc,
    append_right_inj] at h
  rw [latestMetadataJoin_eq, latestMetadataJoin_eq]
  by_cases hm : m = some .ethereum <;> by_cases hn : n = some .ethereum <;>
    simp only [hm, hn, if_true, if_false] at h ⊢
  · exact absurd h (literal_ne (by decide) _ _)
  · exact absurd h (literal_ne (by decide) _ _)

namespace Catalog

variable {schemas : Schemas} {f g : Filters.Catalog} {x y : Fragment}

/-- The tables of an inline ranking carry its term, and are there only if there is one. -/
theorem rankingSources_inj
    (h : .concat ((rankingSources schemas f).map (.text ",\n" ++ ·)) ++ (.text "\n" ++ x) =
      .concat ((rankingSources schemas g).map (.text ",\n" ++ ·)) ++ (.text "\n" ++ y)) :
    inlineTerm f = inlineTerm g ∧ x = y := by
  cases hf : inlineTerm f with
  | none =>
    cases hg : inlineTerm g with
    | none =>
      simp only [rankingSources, hf, hg, append_right_inj] at h
      exact ⟨rfl, h⟩
    | some t =>
      simp only [rankingSources, hf, hg, Ranking.sources, List.cons_append, List.map_cons,
        List.map_nil, concat_cons, concat_nil, append_assoc, empty_append] at h
      exact absurd h (literal_ne (by decide) _ _)
  | some s =>
    cases hg : inlineTerm g with
    | none =>
      simp only [rankingSources, hf, hg, Ranking.sources, List.cons_append, List.map_cons,
        List.map_nil, concat_cons, concat_nil, append_assoc, empty_append] at h
      exact absurd h (literal_ne (by decide) _ _)
    | some t =>
      simp only [rankingSources, hf, hg, Ranking.sources, List.cons_append, List.nil_append,
        List.map_cons, List.map_nil, concat_cons, concat_nil, append_assoc, append_right_inj,
        Source.builderServerItems, bind_append_inj, Param.text.injEq] at h
      obtain ⟨rfl, h⟩ := h
      simp only [Source.searchCandidates, Ranking.candidateUnion, Ranking.tagOrNameBranch,
        append_assoc, append_right_inj] at h
      rw [Source.latestMetadataJoin_inj h] at h
      simp only [append_right_inj, empty_append] at h
      exact ⟨rfl, h⟩

theorem price_inj {name comparison merged : String} {a b : Option String}
    (h : price name comparison a merged ++ x = price name comparison b merged ++ y) :
    a = b ∧ x = y := by
  cases a with
  | none =>
    cases b with
    | none => exact ⟨rfl, (append_right_inj _).mp h⟩
    | some b =>
      simp only [price, text_append, append_assoc, append_right_inj, empty_append] at h
      exact absurd h (literal_ne (by decide) _ _)
  | some a =>
    cases b with
    | none =>
      simp only [price, text_append, append_assoc, append_right_inj, empty_append] at h
      exact absurd h (literal_ne (by decide) _ _)
    | some b =>
      simp only [price, append_assoc, append_right_inj, bind_append_inj, Param.text.injEq] at h
      exact ⟨congrArg some h.1, h.2⟩

/-- The columns tell whether owners are counted, and both bounds of the price. -/
theorem projection_inj {p q : JoinPlan}
    (h : projection schemas f p ++ x = projection schemas g q ++ y) :
    p.ownersCount = q.ownersCount ∧ f.minPrice = g.minPrice ∧ f.maxPrice = g.maxPrice ∧ x = y := by
  simp only [projection, append_assoc, append_right_inj] at h
  have hsplit : "\n\tnfts.owners_count," = "\n\t" ++ "nfts.owners_count," := by decide
  have howners : ∀ (bound : Option String) (z z' : Fragment),
      .text "\n\tnfts.owners_count," ++ z ≠ .text "\n\t" ++ (price "min_price" "items.price >= "
        bound "LEAST(items.price, nfts_with_orders.min_price)" ++ z') := by
    intro bound z z' he
    unfold price at he
    rw [hsplit, text_append, append_assoc, append_right_inj, append_assoc, append_assoc] at he
    exact absurd he (literal_ne (by decide) _ _)
  obtain ⟨hplan, h⟩ := ite_append_inj (fun z => howners _ z _) (fun z => howners _ z _) h
  obtain ⟨hmin, h⟩ := price_inj ((append_right_inj _).mp h)
  obtain ⟨hmax, h⟩ := price_inj ((append_right_inj _).mp h)
  exact ⟨hplan, hmin, hmax, h⟩

theorem joins_congr {p q : JoinPlan} (hplan : p = q) (hmin : f.minPrice = g.minPrice)
    (hmax : f.maxPrice = g.maxPrice) : Join.all schemas f p = Join.all schemas g q := by
  rw [Join.all, Join.all, Join.orders, Join.orders, hplan, hmin, hmax]

theorem whereClause_eq (f : Filters.Catalog) :
    whereClause f = .text ("WHERE " ++ baseCondition) ++ Condition.clause conditions f := rfl

/-- The statement as it is read: what is the same for all requests, and between it what is not. -/
theorem body_eq (schemas : Schemas) (marketplaces : List String) (f : Filters.Catalog) :
    body schemas marketplaces f =
      .text "WITH " ++ (Source.unifiedTrades schemas marketplaces ++
        (.concat ((rankingSources schemas f).map (.text ",\n" ++ ·)) ++
        (.text "\n" ++ (projection schemas f (.of f) ++
        (itemsTable.fill schemas ++
        (.concat ((Join.all schemas f (.of f)).map line) ++
        (.text "\n" ++ (.text ("WHERE " ++ baseCondition) ++
        (Condition.clause conditions f ++
        (orderClause f.term?.isSome (rankKey f.ids) ((sorting f).map sortingText) ++
        pageClause (page f))))))))))) := by
  simp only [body, sources_eq, withClause_cons, orderBy_eq, pagination_eq, whereClause_eq, line,
    append_assoc, pageClause]

/-- What stands behind the conditions is no condition. -/
theorem not_opens_closing (a : Bool) (ids : List String) (s : Option String)
    (p : Option (UInt32 × UInt32)) :
    ¬ Opens separator.toList (orderClause a (rankKey ids) s ++ pageClause p) := by
  have horder (x : Fragment) : ¬ Opens separator.toList (.text "\nORDER BY " ++ x) := fun h =>
    h.ne ((opens_text _).append x) (by decide) rfl
  cases a <;> cases s <;> simp only [orderClause, append_assoc]
  · cases p with
    | none =>
      intro h
      simp [Opens, pageClause, separator] at h
    | some p =>
      rw [empty_append, pageClause_some]
      intro h
      exact h.ne ((opens_text _).append _) (by decide) rfl
  · exact horder _
  · exact horder _
  · exact horder _

/-- The constraints of a request can be read back from its statement, from left to right. -/
theorem body_inj {marketplaces : List String}
    (h : body schemas marketplaces f = body schemas marketplaces g) :
    constraints f = constraints g := by
  rw [body_eq, body_eq, append_right_inj, append_right_inj] at h
  obtain ⟨hinline, h⟩ := rankingSources_inj h
  obtain ⟨howners, hmin, hmax, h⟩ := projection_inj h
  have hplan : JoinPlan.of f = JoinPlan.of g := by
    have hsearch : f.searchesInline = g.searchesInline := by
      rw [searchesInline_eq, searchesInline_eq, hinline]
    exact congrArg₂ JoinPlan.mk howners hsearch
  rw [joins_congr hplan hmin hmax] at h
  simp only [append_right_inj] at h
  obtain ⟨words, hlegible, hwords⟩ := legible_conditions
  obtain ⟨hbuild, h⟩ := Condition.clause_inj hlegible hwords (not_opens_closing _ _ _ _)
    (not_opens_closing _ _ _ _) h
  rw [ids_eq hbuild] at h
  obtain ⟨hterm, hsorting, hpage⟩ := orderClause_inj (fun _ => sorting_mem) (fun _ => sorting_mem) h
  exact constraints_eq hbuild hterm hinline hpage hsorting

/-- Nothing but its constraints goes into the conditions of a request. -/
theorem conditions_congr (h : constraints f = constraints g) :
    ∀ c ∈ conditions, c.build f = c.build g := by
  simp only [constraints, flags, Constraints.mk.injEq, Flags.mk.injEq] at h
  obtain ⟨hclass, hrarities, hcreators, hcontracts, hids, hurns, -, -, hsale,
    ⟨hsold, hhead, haccessory, hlisting, hminting, hsound, hgeometry⟩, hwearable, hemote,
    hwshapes, heshapes, hmode, hmin, hmax, hnetwork, -, -⟩ := h
  have hcreator : creator f = creator g := by rw [creator, creator, hcreators]
  simp only [conditions, List.forall_mem_cons, category_eq, hclass, hrarities, hcreator, hcontracts,
    hids, hurns, isOnSale, hsale, hsold, hhead, haccessory, hlisting, hminting, hsound, hgeometry,
    hwearable, hemote, hwshapes, heshapes, hmode, hmin, hmax, hnetwork]
  simp

/-- A statement shows nothing of its request but the constraints. -/
theorem body_congr (schemas : Schemas) (marketplaces : List String)
    (h : constraints f = constraints g) :
    body schemas marketplaces f = body schemas marketplaces g := by
  have hbuild := conditions_congr h
  simp only [constraints, Constraints.mk.injEq] at h
  obtain ⟨-, -, -, -, hids, -, hterm, hinline, hsale, -, -, -, -, -, -, hmin, hmax, hnetwork,
    hpage, hsorting⟩ := h
  have hplan : JoinPlan.of f = JoinPlan.of g := by
    rw [JoinPlan.of, JoinPlan.of, hsale, searchesInline_eq, searchesInline_eq, hinline]
  have hsources : rankingSources schemas f = rankingSources schemas g := by
    rw [rankingSources, rankingSources, hinline, hnetwork]
  have hprojection : projection schemas f (.of f) = projection schemas g (.of g) := by
    rw [projection, projection, hplan, hmin, hmax]
  rw [body_eq, body_eq, hsources, hprojection, joins_congr hplan hmin hmax,
    Condition.clause_congr hbuild, hterm, hids, hsorting, hpage]

end Catalog

end MarketQuery.Query
