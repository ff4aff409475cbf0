import MarketQuery.Proofs.Filters.Check
import MarketQuery.Proofs.Query.Accepted
import MarketQuery.Proofs.Query.Catalog.Decoding

namespace MarketQuery.Query

open Sql (Fragment Param Template)
open Vocabulary (word)

def listed (vs : List String) : List Param := if vs.isEmpty then [] else [.textArray vs]

def single (v : Option String) : List Param := v.toList.map .text

def twofold (v : Option String) : List Param := v.toList.flatMap fun s => [.text s, .text s]

namespace Ranking

/-- A term is bound for the curated tags, for the utility score, for the utility filter unless there
is none, for the score of words and for their filter. -/
def termValues (term : String) : List Param :=
  [.text term, .text term] ++ (if mentionsUtility term then [] else [.text term]) ++
    [.text term, .text term]

def values (ids : List String) (term : String) : List Param := termValues term ++ listed ids

end Ranking

namespace Catalog

def bounds (f : Filters.Catalog) : List Param := single f.minPrice ++ single f.maxPrice

def creatorValues : List String → List Param
  | [] => []
  | [address] => [.text address]
  | addresses => [.textArray addresses]

def conditionValues (f : Filters.Catalog) : List Param :=
  listed (f.rarities.map word) ++
  creatorValues f.creators ++
  single (f.wearableCategory.map word) ++
  listed (Filters.bodyShapes f.wearableGenders) ++
  single (f.emoteCategory.map word) ++
  (Filters.singlePlayMode f.emotePlayMode).toList.map .bool ++
  listed (Filters.bodyShapes f.emoteGenders) ++
  listed f.contractAddresses ++
  twofold f.minPrice ++
  twofold f.maxPrice ++
  listed f.ids ++
  listed f.urns ++
  f.network.toList.map fun n => .textArray n.indexed

/-- The values of the statement that lists catalog items. The contracts come first; a term is only
bound where it is ranked, and the ids once more where they stand for a ranking. -/
def values (marketplaces : List String) (f : Filters.Catalog) : List Param :=
  [.textArray (marketplaces.map Text.lowercase)] ++
  (match inlineTerm f with
    | some term => Ranking.termValues term
    | none => []) ++
  bounds f ++
  bounds f ++
  conditionValues f ++
  (if f.term?.isSome && !f.ids.isEmpty then [.textArray f.ids] else [])

end Catalog

namespace Condition

def bound (x : Option Fragment) : List Param := x.elim [] Fragment.params

theorem bound_flag (holds : Bool) (text : String) : bound (flag holds text) = [] := by
  cases holds <;> simp [bound, flag]

theorem bound_value (before after : String) (v : Option Param) :
    bound (value before after v) = v.toList := by
  cases v <;> simp [bound, value, Fragment.params_append]

theorem bound_values (before : String) (vs : List String) :
    bound (values before vs) = listed vs := by
  cases vs <;> simp [bound, values, listed, Fragment.params_append]

theorem bound_twice (before between after : String) (v : Option Param) :
    bound (twice before between after v) = v.toList.flatMap fun p => [p, p] := by
  cases v <;> simp [bound, twice, Fragment.params_append]

/-- Conditions bind their values in the order of their table. -/
theorem params_clause {F : Type} (table : List (Condition F)) (f : F) :
    (clause table f).params = table.flatMap fun c => bound (c.build f) := by
  induction table with
  | nil => rfl
  | cons c table ih =>
    rw [List.flatMap_cons]
    cases hc : c.build f with
    | none => rw [clause_cons_none hc, ih, bound, Option.elim_none, List.nil_append]
    | some x =>
      rw [clause_cons_some hc, Fragment.params_append, Fragment.params_append, ih,
        Fragment.params_text, List.nil_append, bound, Option.elim_some]

end Condition

namespace Catalog

theorem bound_category (f : Filters.Catalog) : Condition.bound (category f) = [] := by
  rw [category_eq]
  cases itemClass f <;> simp [ItemClass.condition, Condition.bound]

theorem bound_creator (f : Filters.Catalog) :
    Condition.bound (creator f) = creatorValues f.creators := by
  rw [creator]
  rcases f.creators with _ | ⟨address, _ | ⟨other, rest⟩⟩ <;>
    simp [Condition.bound, creatorValues, Fragment.params_append]

theorem bound_isOnSale (f : Filters.Catalog) : Condition.bound (isOnSale f) = [] := by
  rw [isOnSale]
  rcases f.isOnSale with _ | _ | _ <;> simp [Condition.bound]

/-- Every network has a name in the index, so it is always bound. -/
theorem listed_network (network : Option Filters.Network) :
    listed ((network.map Filters.Network.indexed).getD []) =
      network.toList.map fun n => .textArray n.indexed := by
  rcases network with _ | _ | _ <;> rfl

theorem params_conditions (f : Filters.Catalog) :
    (Condition.clause conditions f).params = conditionValues f := by
  have hword {α : Type} [Vocabulary α] (v : Option α) :
      (v.map fun a => Param.text (word a)).toList = single (v.map word) := by
    cases v <;> rfl
  have htwice (v : Option String) :
      ((v.toList.map Param.text).flatMap fun p => [p, p]) = twofold v := by
    cases v <;> rfl
  rw [Condition.params_clause]
  simp only [conditions, List.flatMap_cons, List.flatMap_nil, Condition.bound_flag,
    Condition.bound_value, Condition.bound_values, Condition.bound_twice, bound_category,
    bound_creator, bound_isOnSale, listed_network, hword, htwice, Option.toList_map,
    List.nil_append, List.append_nil, conditionValues, List.append_assoc]

theorem params_price (name comparison merged : String) (bound : Option String) :
    (price name comparison bound merged).params = single bound := by
  cases bound <;> simp [price, single, Fragment.params_append]

theorem params_projection (schemas : Schemas) (f : Filters.Catalog) (plan : JoinPlan) :
    (projection schemas f plan).params = bounds f := by
  have howners : (if plan.ownersCount then Fragment.text "\n\tnfts.owners_count,"
      else .empty).params = [] := by
    cases plan.ownersCount <;> simp
  simp only [projection, Fragment.params_append, Template.params_fill, howners,
    Fragment.params_text, params_price, List.nil_append, List.append_nil, bounds]

/-- The bounds of the price are bound once more where orders are joined. -/
theorem params_joins (schemas : Schemas) (f : Filters.Catalog) (plan : JoinPlan) :
    (Fragment.concat ((Join.all schemas f plan).map line)).params = bounds f := by
  have hbound (comparison : String) (bound : Option String) :
      (Join.orderBound comparison bound).params = single bound := by
    cases bound <;> simp [Join.orderBound, single, Fragment.params_append]
  rw [Fragment.params_concat, List.flatMap_map, Join.all]
  cases plan.ownersCount <;> cases plan.searchCandidates <;>
    simp [line, Fragment.params_append, Join.owners, Join.orders, Join.metadata,
      Template.params_fill, hbound, bounds]

end Catalog

namespace Source

theorem params_unifiedTrades (schemas : Schemas) (marketplaces : List String) :
    (unifiedTrades schemas marketplaces).params =
      [.textArray (marketplaces.map Text.lowercase)] := by
  simp [unifiedTrades, Fragment.params_append, Template.params_fill]

theorem params_latestMetadata (schemas : Schemas) : (latestMetadata schemas).params = [] :=
  latestMetadataText.params_fill schemas

theorem params_builderServerItems (schemas : Schemas) (term : String) :
    (builderServerItems schemas term).params = [.text term] := by
  simp [builderServerItems, Fragment.params_append, Template.params_fill]

end Source

namespace Ranking

theorem params_utilityBranch (schemas : Schemas) (term : String) :
    (utilityBranch schemas term).params =
      .text term :: if mentionsUtility term then [] else [.text term] := by
  rw [utilityBranch]
  cases mentionsUtility term <;>
    simp [utilityScore, Fragment.params_append, Template.params_fill]

theorem params_candidateUnion (schemas : Schemas) (network : Option Filters.Network)
    (term : String) : (candidateUnion schemas network term).params =
      .text term :: (if mentionsUtility term then [] else [.text term]) ++
        [.text term, .text term] := by
  have hjoin : (Source.latestMetadataJoin network).params = [] := by
    rcases network with _ | _ | _ <;> simp [Source.latestMetadataJoin]
  simp [candidateUnion, tagOrNameBranch, params_utilityBranch, Fragment.params_append,
    Template.params_fill, hjoin]

end Ranking

/-- The values that are listed for a ranking are those that it binds. -/
theorem Ranking.params_body (schemas : Schemas) (f : Filters.Catalog) (term : String) :
    (body schemas f term).params = values f.ids term := by
  have hids : (if f.ids.isEmpty then Fragment.empty
      else .text "array_position(" ++ .bind (.textArray f.ids) ++ .text "::text[], id), ").params =
      listed f.ids := by
    cases f.ids <;> simp [listed, Fragment.params_append]
  have hsources : ((withClause (sources schemas term)).getD .empty).params = [.text term] := by
    simp [sources, withClause_cons, Fragment.params_append, Fragment.params_concat,
      Source.params_latestMetadata, Source.params_builderServerItems]
  simp only [body, Fragment.params_append, hsources, hids, params_candidateUnion,
    Fragment.params_text, values, termValues]
  simp

namespace Catalog

/-- A ranking that is made in the statement binds its term as one of its own does. -/
theorem params_rankingSources (schemas : Schemas) (f : Filters.Catalog) :
    (Fragment.concat ((rankingSources schemas f).map (.text ",\n" ++ ·))).params =
      match inlineTerm f with
      | some term => Ranking.termValues term
      | none => [] := by
  rw [rankingSources]
  cases inlineTerm f with
  | none => rfl
  | some term =>
    simp [Fragment.params_append, Fragment.params_concat, Ranking.sources,
      Source.params_latestMetadata, Source.params_builderServerItems, Source.searchCandidates,
      Ranking.params_candidateUnion, Ranking.termValues]

theorem params_orderClause (f : Filters.Catalog) (key : Option String) :
    (orderClause f.term?.isSome (rankKey f.ids) key).params =
      if f.term?.isSome && !f.ids.isEmpty then [.textArray f.ids] else [] := by
  cases f.term?.isSome <;> cases hids : f.ids <;> cases key <;>
    simp [orderClause, rankKey, Fragment.params_append]

theorem params_pageClause (p : Option (UInt32 × UInt32)) : (pageClause p).params = [] := by
  cases p <;> simp [pageClause, line, Fragment.params_concat, Fragment.params_append]

/-- What is listed for a request is what the parts of its statement bind from left to right. -/
theorem params_body (schemas : Schemas) (marketplaces : List String) (f : Filters.Catalog) :
    (body schemas marketplaces f).params = values marketplaces f := by
  rw [body_eq]
  simp only [Fragment.params_append, Fragment.params_text, Source.params_unifiedTrades,
    params_rankingSources, params_projection, Template.params_fill, params_joins, params_conditions,
    params_orderClause, params_pageClause, List.nil_append, List.append_nil, values,
    List.append_assoc]

end Catalog

/-- The values of a statement are exactly those that its request calls for, in their order. -/
theorem values_in_order (c : Compiler) :
    (∀ f : Filters.Catalog, f.check = .ok () →
      ∃ s, c.catalog f = .ok s ∧ s.params = Catalog.values c.marketplaces f) ∧
    (∀ (f : Filters.Catalog) (term : String), f.term? = some term →
      (∀ id ∈ f.ids, Text.isBlank id = false) →
      ∃ s, c.search f = .ok s ∧ s.params = Ranking.values f.ids term) := by
  refine ⟨fun f hcheck => ?catalog, fun f term hterm hids => ?search⟩
  case catalog =>
    exact ⟨_, Catalog.statement_eq_ok_iff.mpr ⟨hcheck, rfl⟩, Catalog.params_body _ _ f⟩
  case search =>
    exact ⟨_, Ranking.statement_eq_ok_iff.mpr
      ⟨term, hterm, Filters.requireEntries_eq_ok_iff.mpr hids, rfl⟩, Ranking.params_body _ f term⟩

/-- A search within bounds of the price, before and after it is ranked. A term that speaks of
utility is bound once less. -/
theorem values_in_order_hats :
    let c : Compiler := ⟨{}, ["0xAB"]⟩
    let f : Filters.Catalog :=
      { search := some " hat ", creator := some (.many ["0x1"]), emotePlayMode := [.once],
        minPrice := some "5", maxPrice := some "10", network := some .matic }
    let g : Filters.Catalog := { f with ids := ["b", "a"] }
    (∃ s, c.catalog f = .ok s ∧ s.params =
      [.textArray ["0xab"], .text "hat", .text "hat", .text "hat", .text "hat", .text "hat",
        .text "5", .text "10", .text "5", .text "10", .text "0x1", .bool false, .text "5",
        .text "5", .text "10", .text "10", .textArray ["polygon"]]) ∧
    (∃ s, c.catalog g = .ok s ∧ s.params =
      [.textArray ["0xab"], .text "5", .text "10", .text "5", .text "10", .text "0x1", .bool false,
        .text "5", .text "5", .text "10", .text "10", .textArray ["b", "a"],
        .textArray ["polygon"], .textArray ["b", "a"]]) ∧
    ∃ s, c.search { g with search := some "Utility" } = .ok s ∧ s.params =
      [.text "Utility", .text "Utility", .text "Utility", .text "Utility",
        .textArray ["b", "a"]] := by
  intro c f g
  obtain ⟨hcatalog, hsearch⟩ := values_in_order c
  obtain ⟨s, hs, hf⟩ := hcatalog f rfl
  obtain ⟨t, ht, hg⟩ := hcatalog g rfl
  obtain ⟨u, hu, hterm⟩ := hsearch { g with search := some "Utility" } "Utility"
    (by decide +kernel) (by decide)
  exact ⟨⟨s, hs, hf.trans (by decide +kernel)⟩, ⟨t, ht, hg.trans (by decide +kernel)⟩,
    u, hu, hterm.trans (by decide +kernel)⟩

end MarketQuery.Query
