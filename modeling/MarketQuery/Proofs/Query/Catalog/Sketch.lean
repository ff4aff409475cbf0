import MarketQuery.Proofs.Filters.Check
import MarketQuery.Proofs.Query.Catalog.Decoding
import MarketQuery.Proofs.Query.Sketch

namespace MarketQuery.Query.Catalog

open Condition (Drawn drawn_flag drawn_some drawn_twice drawn_value drawn_values draws_clause)
open Sql (Fragment Sketch Slot)
open Sql.Sketch (Draws)

set_option maxRecDepth 10000

section Parts

variable {schemas : Schemas} {contracts : List String} {a b c d e : Sketch}

theorem drawn_category (f : Filters.Catalog)
    (hsmart : Drawn schemas contracts a ItemClass.smartWearable.condition)
    (hwearable : Drawn schemas contracts b ItemClass.wearable.condition)
    (hemote : Drawn schemas contracts c ItemClass.emote.condition) :
    Drawn schemas contracts (.either a (.either b c)) (category f) := by
  intro x hx
  rw [category_eq] at hx
  cases hc : itemClass f <;> rw [hc] at hx
  · exact .left (hsmart x hx)
  · exact .right (.left (hwearable x hx))
  · exact .right (.right (hemote x hx))
  · cases hx

theorem drawn_creator (f : Filters.Catalog)
    (hone : a.Draws schemas contracts (.text "items.creator = "))
    (hmany : b.Draws schemas contracts (.text "items.creator = ANY("))
    (hclose : c.Draws schemas contracts (.text ")")) :
    Drawn schemas contracts
      (.either (.append a (.value .text)) (.append (.append b (.value .texts)) c)) (creator f) := by
  intro x hx
  unfold creator at hx
  split at hx
  · cases hx
  · rename_i address _
    exact Option.some.inj hx ▸ .left (.append hone (.value ⟨address, rfl⟩))
  · rename_i hne _
    exact Option.some.inj hx ▸ .right (.append (.append hmany (.value ⟨_, rfl, hne⟩)) hclose)

theorem drawn_isOnSale (f : Filters.Catalog)
    (hsale : Drawn schemas contracts a (isOnSale { isOnSale := some true }))
    (hnot : Drawn schemas contracts b (isOnSale { isOnSale := some false })) :
    Drawn schemas contracts (.either a b) (isOnSale f) := by
  intro x hx
  cases hf : f.isOnSale with
  | none => simp [isOnSale, hf] at hx
  | some sale =>
    have hs : isOnSale f = isOnSale { isOnSale := some sale } := by rw [isOnSale, hf, isOnSale]
    rw [hs] at hx
    cases sale
    · exact .right (hnot x hx)
    · exact .left (hsale x hx)

/-- The bound of a price is an amount, as its cast needs. -/
theorem draws_price {name comparison merged : String} {bound : Option String}
    (hbound : ∀ s, bound = some s → Decimal.isAmount s = true)
    (hcase : a.Draws schemas contracts
      (.text "CASE WHEN items.available > 0 AND items.search_is_store_minter = true"))
    (hcomparison : b.Draws schemas contracts (.text (" AND " ++ comparison)))
    (hcast : c.Draws schemas contracts (.text "::numeric"))
    (hrest : d.Draws schemas contracts
      (.text (" THEN " ++ merged ++ " ELSE nfts_with_orders." ++ name ++ " END AS " ++ name))) :
    (Sketch.append (.append a (.either (.append (.append b (.value .amount)) c) .empty)) d).Draws
      schemas contracts (price name comparison bound merged) := by
  cases bound with
  | none => exact .append (.append hcase (.right .empty)) hrest
  | some s =>
    exact .append (.append hcase
      (.left (.append (.append hcomparison (.value ⟨s, rfl, hbound s rfl⟩)) hcast))) hrest

theorem draws_orderBound {comparison : String} {bound : Option String}
    (hbound : ∀ s, bound = some s → Decimal.isAmount s = true)
    (hcomparison : a.Draws schemas contracts (.text comparison))
    (hcast : b.Draws schemas contracts (.text "::numeric")) :
    (Sketch.either (.append (.append a (.value .amount)) b) .empty).Draws schemas contracts
      (Join.orderBound comparison bound) := by
  cases bound with
  | none => exact .right .empty
  | some s => exact .left (.append (.append hcomparison (.value ⟨s, rfl, hbound s rfl⟩)) hcast)

theorem draws_orderClause {ranked : Bool} {rank : Fragment} {key : Option String}
    (horder : a.Draws schemas contracts (.text "\nORDER BY "))
    (hrank : ranked = true → b.Draws schemas contracts rank)
    (hcomma : c.Draws schemas contracts (.text ", "))
    (hkey : ∀ k, key = some k → d.Draws schemas contracts (.text k)) :
    (Sketch.either .empty
      (.append a (.either d (.append b (.either .empty (.append c d)))))).Draws schemas contracts
      (orderClause ranked rank key) := by
  cases ranked with
  | false =>
    cases key with
    | none => exact .left .empty
    | some k => exact .right (.append horder (.left (hkey k rfl)))
  | true =>
    have hrank := hrank rfl
    cases key with
    | none =>
      rw [orderClause, ← Fragment.append_empty rank]
      exact .right (.append horder (.right (.append hrank (.left .empty))))
    | some k =>
      exact .right (.append horder
        (.right (.append hrank (.right (.append hcomma (hkey k rfl))))))

theorem draws_pageClause (p : Option (UInt32 × UInt32))
    (hlimit : a.Draws schemas contracts (.text "\nLIMIT "))
    (hoffset : b.Draws schemas contracts (.text " OFFSET ")) :
    (Sketch.either .empty (.append a (.append (.append .number b) .number))).Draws schemas contracts
      (pageClause p) := by
  cases p with
  | none => exact .left .empty
  | some p =>
    rw [pageClause_some]
    exact .right (.append hlimit (.text_append (.text_append .number hoffset) .number))

end Parts

theorem lines_eq (p q : Bool) (u v w x y : Fragment) :
    .concat (((if p then [u] else []) ++ [v, w, x] ++ (if q then [y] else [])).map line) =
      (if p then line u else .empty) ++
        (line v ++ (line w ++ (line x ++ (if q then line y else .empty)))) := by
  cases p <;> cases q <;>
    simp [Fragment.concat_cons, Fragment.concat_nil, Fragment.append_empty, Fragment.empty_append]

theorem joins_eq (schemas : Schemas) (f : Filters.Catalog) (plan : JoinPlan) :
    .concat ((Join.all schemas f plan).map line) =
      (if plan.ownersCount then line (Join.owners schemas) else .empty) ++
        (line (Join.orders schemas f) ++ (line (Join.metadata schemas) ++
        (line (.text Join.offchainOrders) ++
        (if plan.searchCandidates then line (.text Join.searchCandidates) else .empty)))) := by
  rw [Join.all]
  exact lines_eq _ _ _ _ _ _ _

def conditionsSketch : { ks : List Sketch // ∀ schemas contracts (f : Filters.Catalog),
    f.check = .ok () →
    List.Forall₂ (fun k c => Drawn schemas contracts k (c.build f)) ks conditions } :=
  ⟨_, fun _ _ f h =>
    .cons (drawn_category f (drawn_some (.text_append .literal .literal))
      (drawn_some (.text_append .literal .literal)) (drawn_some (.text_append .literal .literal))) <|
    .cons (drawn_values .literal) <|
    .cons (drawn_creator f .literal .literal .literal) <|
    .cons (drawn_flag .literal) <|
    .cons (drawn_isOnSale f (drawn_some .literal) (drawn_some .literal)) <|
    .cons (drawn_flag .literal) <|
    .cons (drawn_flag .literal) <|
    .cons (drawn_value Slot.text_of_map) <|
    .cons (drawn_values .literal) <|
    .cons (drawn_value Slot.text_of_map) <|
    .cons (drawn_value Slot.bool_of_map) <|
    .cons (drawn_values .literal) <|
    .cons (drawn_values .literal) <|
    .cons (drawn_twice (Slot.amount_of_map (Filters.Catalog.prices_of_check h).1)) <|
    .cons (drawn_twice (Slot.amount_of_map (Filters.Catalog.prices_of_check h).2)) <|
    .cons (drawn_flag .literal) <|
    .cons (drawn_flag .literal) <|
    .cons (drawn_values .literal) <|
    .cons (drawn_flag .literal) <|
    .cons (drawn_flag .literal) <|
    .cons (drawn_values .literal) <|
    .cons (drawn_values .literal) .nil⟩

def sortingsSketch : { ks : List Sketch // ∀ schemas contracts,
    List.Forall₂ (fun k s => k.Draws schemas contracts (.text (sortingText s))) ks sortings } :=
  ⟨_, fun _ _ => .cons .literal <| .cons .literal <| .cons .literal <| .cons .literal <|
    .cons .literal <| .cons (.text_append .literal .literal) <|
    .cons (.text_append .literal .literal) .nil⟩

def ownersColumnSketch :
    { k : Sketch // ∀ schemas contracts,
      k.Draws schemas contracts (.text "\n\tnfts.owners_count,") } :=
  ⟨_, fun _ _ => .literal⟩

def projectionSketch (owners : Sketch) :
    { k : Sketch // ∀ schemas contracts (f : Filters.Catalog) plan, f.check = .ok () →
      owners.Draws schemas contracts
        (if plan.ownersCount then .text "\n\tnfts.owners_count," else .empty) →
      k.Draws schemas contracts (projection schemas f plan) } :=
  ⟨_, fun _ _ _ _ h ho => .append (.append (.append (.append (.append
      (.glued <| .glued .last) ho) .literal)
      (draws_price (Filters.Catalog.prices_of_check h).1 .literal (.text_append .literal .literal)
        .literal (.text_append (.text_append (.text_append (.text_append (.text_append .literal
          .literal) .literal) .literal) .literal) .literal))) .literal)
      (draws_price (Filters.Catalog.prices_of_check h).2 .literal (.text_append .literal .literal)
        .literal (.text_append (.text_append (.text_append (.text_append (.text_append .literal
          .literal) .literal) .literal) .literal) .literal))⟩

def ordersSketch : { k : Sketch // ∀ schemas contracts (f : Filters.Catalog),
    f.check = .ok () → k.Draws schemas contracts (Join.orders schemas f) } :=
  ⟨_, fun _ _ _ h => .append (.append (.append (.piece .last)
      (draws_orderBound (Filters.Catalog.prices_of_check h).1 .literal .literal))
      (draws_orderBound (Filters.Catalog.prices_of_check h).2 .literal .literal)) .literal⟩

def metadataSketch :
    { k : Sketch // ∀ schemas contracts, k.Draws schemas contracts (Join.metadata schemas) } :=
  ⟨_, fun _ _ => .piece <| .piece <| .piece <| .piece .last⟩

def ownersSketch :
    { k : Sketch // ∀ schemas contracts, k.Draws schemas contracts (line (Join.owners schemas)) } :=
  ⟨_, fun _ _ => .append .literal (.piece .last)⟩

def orderSketch (rank : Sketch) :
    { k : Sketch // ∀ schemas contracts (f : Filters.Catalog),
      (f.term?.isSome = true → rank.Draws schemas contracts (rankKey f.ids)) →
      k.Draws schemas contracts
        (orderClause f.term?.isSome (rankKey f.ids) ((sorting f).map sortingText)) } :=
  ⟨_, fun schemas contracts f hr => draws_orderClause .literal hr .literal fun k hk => by
    obtain ⟨s, hs, rfl⟩ := Option.map_eq_some_iff.mp hk
    exact Draws.of_mem (sortingsSketch.property schemas contracts) s (sorting_mem hs)⟩

/-- The statement, given the sketches of what a search adds, which are its tables, its join and what
it does to the order, and of what is only shown of items that are not on sale. -/
def bodySketch (tables column owners join order : Sketch) :
    { k : Sketch // ∀ schemas (marketplaces : List String) (f : Filters.Catalog),
      let contracts := marketplaces.map Text.lowercase
      f.check = .ok () →
      tables.Draws schemas contracts
        (.concat ((rankingSources schemas f).map (.text ",\n" ++ ·))) →
      column.Draws schemas contracts
        (if (JoinPlan.of f).ownersCount then .text "\n\tnfts.owners_count," else .empty) →
      owners.Draws schemas contracts
        (if (JoinPlan.of f).ownersCount then line (Join.owners schemas) else .empty) →
      join.Draws schemas contracts
        (if (JoinPlan.of f).searchCandidates then line (.text Join.searchCandidates) else .empty) →
      order.Draws schemas contracts
        (orderClause f.term?.isSome (rankKey f.ids) ((sorting f).map sortingText)) →
      k.Draws schemas contracts (body schemas marketplaces f) } :=
  ⟨_, fun schemas marketplaces f h ht hc hw hj ho => by
    rw [body_eq, joins_eq]
    exact .append .literal (.append (Source.unifiedTradesSketch.property schemas marketplaces)
      (.append ht (.append .literal
      (.append ((projectionSketch column).property schemas _ f _ h hc)
      (.append (.piece .last)
      (.append (.append hw
        (.append (.append .literal (ordersSketch.property schemas _ f h))
        (.append (.append .literal (metadataSketch.property schemas _))
        (.append (.append .literal .literal) hj))))
      (.append .literal (.append (.text_append .literal .literal)
      (.append (draws_clause .literal (conditionsSketch.property schemas _ f h))
      (.append ho (draws_pageClause (page f) .literal .literal)))))))))))⟩

def rankingSourcesSketch : { k : Sketch // ∀ schemas contracts network term,
    k.Draws schemas contracts (.concat ((Ranking.sources schemas term ++
      [Source.searchCandidates schemas network term]).map (.text ",\n" ++ ·))) } :=
  ⟨_, fun schemas contracts network term =>
    .cons (.append .literal (Source.latestMetadataSketch.property schemas contracts)) <|
    .cons (.append .literal (Source.builderServerItemsSketch.property schemas contracts term)) <|
    .cons (.append .literal
      (Ranking.searchCandidatesSketch.property schemas contracts network term)) .nil⟩

def candidatesJoinSketch : { k : Sketch // ∀ schemas contracts,
    k.Draws schemas contracts (line (.text Join.searchCandidates)) } :=
  ⟨_, fun _ _ => .append .literal .literal⟩

def idsKeySketch : { k : Sketch // ∀ schemas contracts ids, ids.isEmpty = false →
    k.Draws schemas contracts (rankKey ids) } :=
  ⟨_, fun schemas contracts ids h => by
    rw [rankKey, h, if_neg Bool.false_ne_true]
    exact .append (.append .literal (.texts fun he => by simp [he] at h)) .literal⟩

def similarityKeySketch : { k : Sketch // ∀ schemas contracts,
    k.Draws schemas contracts (rankKey []) } :=
  ⟨_, fun _ _ => .literal⟩

section Modes

variable {schemas : Schemas} {contracts : List String} {f : Filters.Catalog}

theorem draws_anyTables :
    (Sketch.either rankingSourcesSketch.val .empty).Draws schemas contracts
      (.concat ((rankingSources schemas f).map (.text ",\n" ++ ·))) := by
  rw [rankingSources]
  split
  · exact .left (rankingSourcesSketch.property schemas _ _ _)
  · exact .right .nil

theorem draws_anyJoin :
    (Sketch.either candidatesJoinSketch.val .empty).Draws schemas contracts
      (if (JoinPlan.of f).searchCandidates then line (.text Join.searchCandidates) else .empty) :=
  .ite (fun _ => candidatesJoinSketch.property schemas _) (fun _ => .empty)

theorem draws_anyColumn :
    (Sketch.either ownersColumnSketch.val .empty).Draws schemas contracts
      (if (JoinPlan.of f).ownersCount then .text "\n\tnfts.owners_count," else .empty) :=
  .ite (fun _ => ownersColumnSketch.property schemas _) (fun _ => .empty)

theorem draws_anyOwners :
    (Sketch.either ownersSketch.val .empty).Draws schemas contracts
      (if (JoinPlan.of f).ownersCount then line (Join.owners schemas) else .empty) :=
  .ite (fun _ => ownersSketch.property schemas _) (fun _ => .empty)

theorem draws_anyKey :
    (Sketch.either idsKeySketch.val similarityKeySketch.val).Draws schemas contracts
      (rankKey f.ids) := by
  cases hids : f.ids with
  | nil => exact .right (similarityKeySketch.property schemas _)
  | cons id ids => exact .left (idsKeySketch.property schemas _ _ rfl)

theorem draws_noTables (h : f.searchesInline = false) :
    Sketch.empty.Draws schemas contracts
      (.concat ((rankingSources schemas f).map (.text ",\n" ++ ·))) := by
  have hnone : inlineTerm f = none := by
    rw [searchesInline_eq] at h
    exact Option.isNone_iff_eq_none.mp (Option.isSome_eq_false_iff.mp h)
  rw [rankingSources, hnone]
  exact .nil

theorem draws_noJoin (h : f.searchesInline = false) :
    Sketch.empty.Draws schemas contracts
      (if (JoinPlan.of f).searchCandidates then line (.text Join.searchCandidates)
        else .empty) := by
  have hplan : (JoinPlan.of f).searchCandidates = false := h
  rw [hplan]
  exact .empty

theorem isEmpty_ids_of_ranked (h : f.searchesInline = false) (hterm : f.term?.isSome = true) :
    f.ids.isEmpty = false := by
  rw [Filters.Catalog.searchesInline, hterm] at h
  exact h

end Modes

def listingSketch (tables join rank : Sketch) :
    { k : Sketch // ∀ schemas (marketplaces : List String) (f : Filters.Catalog),
      let contracts := marketplaces.map Text.lowercase
      f.check = .ok () →
      tables.Draws schemas contracts
        (.concat ((rankingSources schemas f).map (.text ",\n" ++ ·))) →
      join.Draws schemas contracts
        (if (JoinPlan.of f).searchCandidates then line (.text Join.searchCandidates) else .empty) →
      (f.term?.isSome = true → rank.Draws schemas contracts (rankKey f.ids)) →
      k.Draws schemas contracts (body schemas marketplaces f) } :=
  ⟨_, fun schemas marketplaces f h ht hj hr =>
    (bodySketch tables (.either ownersColumnSketch.val .empty) (.either ownersSketch.val .empty)
        join (orderSketch rank).val).property schemas marketplaces f h ht
      draws_anyColumn draws_anyOwners hj ((orderSketch rank).property schemas _ f hr)⟩

def sketch : { k : Sketch // ∀ schemas (marketplaces : List String) (f : Filters.Catalog),
    f.check = .ok () →
    k.Draws schemas (marketplaces.map Text.lowercase) (body schemas marketplaces f) } :=
  ⟨_, fun schemas marketplaces f h => (listingSketch (.either rankingSourcesSketch.val .empty)
      (.either candidatesJoinSketch.val .empty)
      (.either idsKeySketch.val similarityKeySketch.val)).property schemas marketplaces f h
      draws_anyTables draws_anyJoin (fun _ => draws_anyKey)⟩

def rankedSketch : { k : Sketch // ∀ schemas (marketplaces : List String) (f : Filters.Catalog),
    f.check = .ok () → f.searchesInline = false →
    k.Draws schemas (marketplaces.map Text.lowercase) (body schemas marketplaces f) } :=
  ⟨_, fun schemas marketplaces f h hs =>
    (listingSketch .empty .empty idsKeySketch.val).property schemas marketplaces f h
      (draws_noTables hs) (draws_noJoin hs) fun hterm =>
        idsKeySketch.property schemas _ _ (isEmpty_ids_of_ranked hs hterm)⟩

end MarketQuery.Query.Catalog
