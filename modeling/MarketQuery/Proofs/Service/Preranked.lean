import MarketQuery.Proofs.Service.Protocol

namespace MarketQuery

open Query (Compiler)
open Sql (Fragment Statement)

/-- A part of a fragment of which there are two versions. -/
inductive Sql.Change where
  | keep (x : Fragment)
  | remove (x : Fragment)
  | insert (x : Fragment)

namespace Sql.Change

def old : Change → Fragment
  | keep x | remove x => x
  | insert _ => .empty

def new : Change → Fragment
  | keep x | insert x => x
  | remove _ => .empty

end Sql.Change

open Sql (Change)

namespace Query

namespace Catalog

open Sql.Fragment (append_assoc append_empty concat_append concat_cons concat_nil empty_append)

def conditionsBeforeIds : List (Condition Filters.Catalog) :=
  conditions.takeWhile fun c => c.dimension != "ids"

def conditionsBehindIds : List (Condition Filters.Catalog) :=
  (conditions.dropWhile fun c => c.dimension != "ids").tail

theorem conditions_eq : conditions = conditionsBeforeIds ++
    ⟨"ids", fun f => Condition.values "items.id = ANY(" f.ids⟩ :: conditionsBehindIds := by
  rfl

/-- From the statement that ranks its items to the one that is given their ids: the named tables of
the ranking and the join with it go, the ids become a condition, and their order the first key. -/
def rankingChanges (schemas : Schemas) (marketplaces : List String) (f : Filters.Catalog)
    (term : String) (ids : List String) : List Change :=
  [.keep (.text "WITH " ++ Source.unifiedTrades schemas marketplaces),
   .remove (.text ",\n" ++ Source.latestMetadata schemas),
   .remove (.text ",\n" ++ Source.builderServerItems schemas term),
   .remove (.text ",\n" ++ (.text Source.searchCandidatesHead ++
     Ranking.candidateUnion schemas f.network term ++ .text Source.searchCandidatesTail)),
   .keep (line (projection schemas f (plainPlan f))),
   .keep (itemsTable.fill schemas),
   .keep (.concat ((Join.all schemas f (plainPlan f)).map line)),
   .remove (line (.text Join.searchCandidates)),
   .keep (line (.text ("WHERE " ++ baseCondition))),
   .keep (Condition.clause conditionsBeforeIds f),
   .insert (.text separator ++ idsCondition ids),
   .keep (Condition.clause conditionsBehindIds f),
   .keep (.text "\nORDER BY "),
   .remove (.text "search_candidates.word_similarity DESC"),
   .insert (.text "array_position(" ++ .bind (.textArray ids) ++
     .text "::text[], items.id::text)"),
   .keep (((Ordering.requested f).map (.text ", " ++ ·)).getD .empty),
   .keep (.concat ((Ordering.pagination f.limit f.offset).toList.map line))]

variable {schemas : Schemas} {marketplaces : List String} {f : Filters.Catalog} {term : String}
  {ids : List String}

theorem furtherKey_sorting (f : Filters.Catalog) :
    furtherKey ((sorting f).map sortingText) =
      ((Ordering.requested f).map (.text ", " ++ ·)).getD .empty := by
  rw [requested_eq]
  cases sorting f <;> rfl

theorem pageClause_page (f : Filters.Catalog) :
    pageClause (page f) = .concat ((Ordering.pagination f.limit f.offset).toList.map line) := by
  rw [pagination_eq, pageClause]

/-- One condition alone depends on the ids. -/
theorem build_ids : ∀ c ∈ conditions, c.dimension ≠ "ids" →
    c.build { f with ids := ids } = c.build f := by
  have hcreator : creator { f with ids := ids } = creator f := rfl
  simp [conditions, category, isOnSale, hcreator]

theorem clause_ids (hids : ids ≠ []) :
    Condition.clause conditions { f with ids := ids } =
      Condition.clause conditionsBeforeIds f ++ (.text separator ++ (idsCondition ids ++
        Condition.clause conditionsBehindIds f)) := by
  have hothers : "ids" ∉ (conditionsBeforeIds ++ conditionsBehindIds).map Condition.dimension := by
    decide
  have hsame (table : List (Condition Filters.Catalog))
      (h : table ⊆ conditionsBeforeIds ++ conditionsBehindIds) (hin : table ⊆ conditions) :
      Condition.clause table { f with ids := ids } = Condition.clause table f :=
    Condition.clause_congr fun c hc => build_ids c (hin hc) fun he =>
      hothers (List.mem_map.mpr ⟨c, h hc, he⟩)
  have hsome : Condition.values "items.id = ANY(" ids = some (idsCondition ids) :=
    if_neg fun he => hids (List.isEmpty_iff.mp he)
  rw [conditions_eq, Condition.clause_append, Condition.clause_cons_some hsome,
    hsame conditionsBeforeIds (List.subset_append_left ..) (List.takeWhile_subset _),
    hsame conditionsBehindIds (List.subset_append_right ..)
      fun c hc => (List.dropWhile_sublist _).subset (List.tail_subset _ hc)]

theorem clause_noIds (hids : f.ids = []) :
    Condition.clause conditions f =
      Condition.clause conditionsBeforeIds f ++ Condition.clause conditionsBehindIds f := by
  have hnone : Condition.values "items.id = ANY(" f.ids = none := by rw [hids]; rfl
  rw [conditions_eq, Condition.clause_append, Condition.clause_cons_none hnone]

/-- A ranking inside the statement adds one join, behind all others. -/
theorem joins_inline (schemas : Schemas) (f : Filters.Catalog) (h : f.searchesInline = true) :
    .concat ((Join.all schemas f (.of f)).map line) =
      .concat ((Join.all schemas f (plainPlan f)).map line) ++
        line (.text Join.searchCandidates) := by
  rw [joins_eq, joins_eq, JoinPlan.of, h, plainPlan]
  simp only [append_assoc, if_true, Bool.false_eq_true, if_false, append_empty]

/-- Before the changes, the statement is the one that ranks. -/
theorem old_rankingChanges (hterm : f.term? = some term) (hids : f.ids = []) :
    .concat ((rankingChanges schemas marketplaces f term ids).map Change.old) =
      body schemas marketplaces f := by
  have hs : f.searchesInline = true :=
    searchesInline_iff_term.mpr ⟨Option.isSome_iff_exists.mpr ⟨term, hterm⟩, hids⟩
  have hinline : inlineTerm f = some term := inlineTerm_eq_some_iff.mpr ⟨hterm, hids⟩
  have hprojection : projection schemas f (.of f) = projection schemas f (plainPlan f) := rfl
  have hrank : rankKey f.ids = .text "search_candidates.word_similarity DESC" := by
    rw [hids]
    rfl
  rw [body_eq, rankingSources, hinline, hprojection, joins_inline schemas f hs,
    clause_noIds hids, hterm, Option.isSome_some, orderClause_ranked, hrank, furtherKey_sorting,
    pageClause_page]
  simp only [rankingChanges, Change.old, Ranking.sources, Source.searchCandidates, List.map_cons,
    List.map_nil, List.map_append, concat_append, concat_cons, concat_nil, append_assoc,
    append_empty, empty_append, line]

/-- After them, it is the one that is given the ids. -/
theorem new_rankingChanges (hterm : f.term? = some term) (hids : ids ≠ []) :
    .concat ((rankingChanges schemas marketplaces f term ids).map Change.new) =
      body schemas marketplaces { f with ids := ids } := by
  have hempty : ids.isEmpty = false := List.isEmpty_eq_false_iff.mpr hids
  have hs : Filters.Catalog.searchesInline { f with ids := ids } = false :=
    Bool.eq_false_iff.mpr fun hs => hids (searchesInline_iff_term.mp hs).2
  have hinline : inlineTerm { f with ids := ids } = none :=
    Option.eq_none_iff_forall_ne_some.mpr fun _ he => hids (inlineTerm_eq_some_iff.mp he).2
  have hprojection : projection schemas { f with ids := ids } (plainPlan { f with ids := ids }) =
      projection schemas f (plainPlan f) := rfl
  have hjoins : Join.all schemas { f with ids := ids } (plainPlan { f with ids := ids }) =
      Join.all schemas f (plainPlan f) := rfl
  have hrequested : Ordering.requested { f with ids := ids } = Ordering.requested f := rfl
  have hterm' : Filters.Catalog.term? { f with ids := ids } = some term := hterm
  have hrank : rankKey ids =
      .text "array_position(" ++ .bind (.textArray ids) ++ .text "::text[], items.id::text)" := by
    rw [rankKey, hempty, if_neg Bool.false_ne_true]
  rw [body_eq, rankingSources, hinline, plan_of_ranked hs, hprojection, hjoins, clause_ids hids,
    hterm', Option.isSome_some, orderClause_ranked, hrank, furtherKey_sorting, hrequested,
    pageClause_page]
  simp only [rankingChanges, Change.new, List.map_cons, List.map_nil, concat_cons, concat_nil,
    append_assoc, append_empty, empty_append, line]

end Catalog

/-- The statement that ranks: the same tables, and the same candidates. -/
theorem Ranking.body_eq {schemas : Schemas} {f : Filters.Catalog} {term : String}
    (hids : f.ids = []) :
    body schemas f term = .text "WITH " ++ Source.latestMetadata schemas ++
      .text ",\n" ++ Source.builderServerItems schemas term ++
      .text "\nSELECT id, word_similarity::float8 AS word_similarity, match_type, word\nFROM " ++
      candidateUnion schemas f.network term ++
      .text "\nORDER BY word_similarity DESC, first_listed_at DESC NULLS LAST" := by
  have horder : "\nORDER BY word_similarity DESC, first_listed_at DESC NULLS LAST" =
      "\nORDER BY " ++ "word_similarity DESC, first_listed_at DESC NULLS LAST" := by decide
  rw [horder, Fragment.text_append, body, sources, withClause_cons, hids, List.isEmpty_nil,
    if_pos rfl]
  simp only [List.map_cons, List.map_nil, Fragment.concat_cons, Fragment.concat_nil,
    Fragment.append_assoc, Fragment.empty_append]

end Query

namespace Service

open Query.Catalog (new_rankingChanges old_rankingChanges rankingChanges)
open Query.Ranking (candidateUnion)
open Query.Source (builderServerItems latestMetadata)

/-- A search that is ranked by a statement of its own lists the same as one that is ranked inside:
the two statements differ in the ranking alone, and what ranks, the named tables and the candidates,
is taken over as it is. -/
theorem ranked_before_or_inside {c : Compiler} {f : Filters.Catalog} {s : Statement} {term : String}
    {cs : List Candidate} (hs : c.catalog f = .ok s) (hterm : f.term? = some term)
    (hids : f.ids = []) (hcs : cs ≠ []) (hblank : ∀ x ∈ cs, Text.isBlank x.id = false) :
    let changes := rankingChanges c.schemas c.marketplaces f term (withRankedIds f cs).ids
    ∃ r t, c.catalog (withRankedIds f cs) = .ok r ∧ c.search f = .ok t ∧
      s.fragment = .concat (changes.map Change.old) ∧
      r.fragment = .concat (changes.map Change.new) ∧
      t.fragment = .text "WITH " ++ latestMetadata c.schemas ++
        .text ",\n" ++ builderServerItems c.schemas term ++
        .text "\nSELECT id, word_similarity::float8 AS word_similarity, match_type, word\nFROM " ++
        candidateUnion c.schemas f.network term ++
        .text "\nORDER BY word_similarity DESC, first_listed_at DESC NULLS LAST" := by
  intro changes
  obtain ⟨hcheck, rfl⟩ := Query.Catalog.statement_eq_ok_iff.mp hs
  have hsearch : c.search f = .ok ⟨Query.Ranking.body c.schemas f term⟩ :=
    Query.Ranking.statement_eq_ok_iff.mpr ⟨term, hterm, by rw [hids]; rfl, rfl⟩
  have hranked : c.catalog (withRankedIds f cs) =
      .ok ⟨Query.Catalog.body c.schemas c.marketplaces (withRankedIds f cs)⟩ :=
    Query.Catalog.statement_eq_ok_iff.mpr ⟨check_withRankedIds_eq_ok hcheck hblank, rfl⟩
  have hne : (withRankedIds f cs).ids ≠ [] := by
    obtain ⟨x, xs, rfl⟩ := List.exists_cons_of_ne_nil hcs
    exact List.cons_ne_nil _ _
  refine ⟨_, _, hranked, hsearch, (old_rankingChanges hterm hids).symm, ?_, ?_⟩
  · exact (new_rankingChanges hterm hne).symm
  · exact Query.Ranking.body_eq hids

/-- A search that finds two candidates. -/
theorem ranked_before_or_inside_hats :
    let c : Compiler := ⟨{}, ["0xa"]⟩
    let f : Filters.Catalog := { search := some " hat ", limit := some 24, offset := some 0 }
    let changes := rankingChanges {} ["0xa"] f "hat" ["b", "a"]
    ∃ s r t, c.catalog f = .ok s ∧ c.catalog { f with ids := ["b", "a"] } = .ok r ∧
      c.search f = .ok t ∧ s.fragment = .concat (changes.map Change.old) ∧
      r.fragment = .concat (changes.map Change.new) := by
  intro c f changes
  have hterm : f.term? = some "hat" := by decide +kernel
  let cs : List Candidate := [⟨"b", 0.9, "tag", "hat"⟩, ⟨"a", 0.7, "name", "hat"⟩]
  have hs : c.catalog f = .ok ⟨Query.Catalog.body {} ["0xa"] f⟩ := rfl
  obtain ⟨r, t, hr, ht, hold, hnew, -⟩ := ranked_before_or_inside hs hterm rfl
    (List.cons_ne_nil _ _ : cs ≠ []) (by decide +kernel)
  exact ⟨_, r, t, hs, hr, ht, hold, hnew⟩

end Service

end MarketQuery
