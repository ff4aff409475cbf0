import MarketQuery.Proofs.Query.Catalog.Sketch
import MarketQuery.Proofs.Sql.Absent
import MarketQuery.Proofs.Text.Normal

namespace MarketQuery.Query.Catalog

open Sql (Fragment Statement)
open Sql.Fragment (append_assoc concat_cons)

set_option maxRecDepth 100000

/-- A search that has still to be ranked has a term that is not blank, and no ids. -/
theorem searchesInline_iff {f : Filters.Catalog} :
    f.searchesInline = true ↔
      (∃ t, f.search = some t ∧ Text.isBlank t = false) ∧ f.ids = [] := by
  have hterm : f.term?.isSome = true ↔ ∃ t, f.search = some t ∧ Text.isBlank t = false := by
    rw [Filters.Catalog.term?, Filters.searchTerm, Option.isSome_filter, Option.any_map,
      Option.any_eq_true]
    refine exists_congr fun t => and_congr_right fun _ => ?_
    rw [← Bool.not_eq_true, Text.isBlank_iff_trim_eq_empty]
    simp
  rw [searchesInline_iff_term, hterm]

def plainPlan (f : Filters.Catalog) : JoinPlan where
  ownersCount := f.isOnSale = some false
  searchCandidates := false

theorem plan_of_ranked {f : Filters.Catalog} (h : f.searchesInline = false) :
    JoinPlan.of f = plainPlan f := by
  rw [JoinPlan.of, h, plainPlan]

/-- The trades are the only named table of a statement without a ranking. -/
theorem sources_of_ranked {schemas : Schemas} {marketplaces : List String} {f : Filters.Catalog}
    (h : f.searchesInline = false) :
    sources schemas marketplaces f = [Source.unifiedTrades schemas marketplaces] := by
  rw [sources]
  rw [Filters.Catalog.searchesInline] at h
  cases ht : f.term? with
  | none => rfl
  | some term =>
    rw [ht, Option.isSome_some, Bool.true_and] at h
    simp [h]

def holdsBlank (cs : List Char) : Bool := cs.contains ' '

theorem rankedSketch_absent_table :
    (rankedSketch.val.read (Sql.absence "search_candidates AS (".toList holdsBlank) []).isSome =
      true := by
  decide +kernel

theorem rankedSketch_absent_join :
    (rankedSketch.val.read (Sql.absence "JOIN search_candidates ON".toList holdsBlank) []).isSome =
      true := by
  decide +kernel

theorem not_infix_name {schemas : Schemas} (h : ∀ role, ' ' ∉ (schemas.name role).toList) :
    ∀ role b, holdsBlank b = true → ¬ b <:+: (schemas.name role).toList := by
  intro role b hb hin
  exact h role (hin.subset (List.contains_iff_mem.mp hb))

/-- A word with a blank that the sketch can be read without is not in the text. -/
theorem not_infix_of_ranked {schemas : Schemas} {marketplaces : List String} {f : Filters.Catalog}
    (hcheck : f.check = .ok ()) (h : f.searchesInline = false)
    (hnames : ∀ role, ' ' ∉ (schemas.name role).toList) {w : List Char} (hw : w ≠ [])
    (hchars : w.all Sql.isWordChar = true)
    (hread : (rankedSketch.val.read (Sql.absence w holdsBlank) []).isSome = true) :
    ¬ w <:+: (body schemas marketplaces f).render.toList := by
  intro hin
  rw [Fragment.toList_render] at hin
  exact (rankedSketch.property schemas marketplaces f hcheck h).absent hw hread
    (not_infix_name hnames) (Fragment.infix_of_renderAtoms hchars hin)

def idsCondition (ids : List String) : Fragment :=
  .text "items.id = ANY(" ++ .bind (.textArray ids) ++ .text ")"

theorem mem_present_ids {f : Filters.Catalog} (h : f.ids ≠ []) :
    ("ids", idsCondition f.ids) ∈ Condition.present conditions f := by
  have hmem : conditions[17] ∈ conditions := List.getElem_mem _
  have hbuild : conditions[17].build f = some (idsCondition f.ids) :=
    if_neg fun he => h (List.isEmpty_iff.mp he)
  refine List.mem_filterMap.mpr ⟨conditions[17], hmem, ?_⟩
  rw [hbuild]
  rfl

theorem whereClause_of_ids {f : Filters.Catalog} (h : f.ids ≠ []) :
    ∃ x y, whereClause f = x ++ (.text separator ++ idsCondition f.ids) ++ y := by
  obtain ⟨l, r, hlr⟩ := List.append_of_mem (mem_present_ids h)
  refine ⟨.text ("WHERE " ++ baseCondition) ++ .concat (l.map fun p => .text separator ++ p.2),
    .concat (r.map fun p => .text separator ++ p.2), ?_⟩
  rw [whereClause, hlr, List.map_append, List.map_cons]
  simp only [append_assoc, Fragment.concat_append, concat_cons]

theorem orderBy_of_ids {f : Filters.Catalog} (hterm : f.term?.isSome = true) (h : f.ids ≠ []) :
    ∃ z, Ordering.orderBy f false = some (.text "ORDER BY " ++
      (.text "array_position(" ++ .bind (.textArray f.ids) ++
        .text "::text[], items.id::text)") ++ z) := by
  have hids : f.ids.isEmpty = false := by simpa using h
  rw [Ordering.orderBy, Ordering.rankedIds, Ordering.inlineRank, hterm, hids]
  exact ⟨_, by simp [Fragment.join, append_assoc]; rfl⟩

/-- The statement for a request is made without a ranking. If there is a term, one array of ids both
chooses the items and is what they are sorted by first. -/
structure TakesRanking (schemas : Schemas) (marketplaces : List String) (f : Filters.Catalog)
    (s : Statement) : Prop where
  parts : s.fragment =
    (withClause [Source.unifiedTrades schemas marketplaces]).getD .empty ++
      line (projection schemas f (plainPlan f)) ++
      itemsTable.fill schemas ++
      .concat ((Join.all schemas f (plainPlan f)).map line) ++
      line (whereClause f) ++
      .concat ((Ordering.orderBy f false).toList.map line) ++
      .concat ((Ordering.pagination f.limit f.offset).toList.map line)
  unranked : (∀ role, ' ' ∉ (schemas.name role).toList) →
    ¬ "search_candidates AS (".toList <:+: s.sql.toList ∧
      ¬ "JOIN search_candidates ON".toList <:+: s.sql.toList
  ids : f.term?.isSome = true → f.ids ≠ [] ∧
    (∃ x y, whereClause f = x ++ (.text separator ++ idsCondition f.ids) ++ y) ∧
    ∃ z, Ordering.orderBy f false = some (.text "ORDER BY " ++
      (.text "array_position(" ++ .bind (.textArray f.ids) ++
        .text "::text[], items.id::text)") ++ z)

/-- A statement that makes no ranking of its own takes it from the ids, if there is a term. -/
theorem takesRanking {schemas : Schemas} {marketplaces : List String} {f : Filters.Catalog}
    (hcheck : f.check = .ok ()) (h : f.searchesInline = false) :
    TakesRanking schemas marketplaces f ⟨body schemas marketplaces f⟩ where
  parts := by
    rw [body, plan_of_ranked h, sources_of_ranked h, plainPlan]
  unranked hnames :=
    ⟨not_infix_of_ranked hcheck h hnames (by decide) (by decide) rankedSketch_absent_table,
      not_infix_of_ranked hcheck h hnames (by decide) (by decide) rankedSketch_absent_join⟩
  ids hterm := by
    have hids : f.ids ≠ [] := by
      intro he
      rw [Filters.Catalog.searchesInline, hterm, he] at h
      contradiction
    exact ⟨hids, whereClause_of_ids hids, orderBy_of_ids hterm hids⟩

end MarketQuery.Query.Catalog
