import MarketQuery.Query.Catalog

namespace MarketQuery.Query

open Filters (Network SortDirection SortKey isSet)
open Sql (Fragment)

theorem withClause_cons (f : Fragment) (fs : List Fragment) :
    (withClause (f :: fs)).getD .empty =
      .text "WITH " ++ (f ++ .concat (fs.map (.text ",\n" ++ ·))) := rfl

inductive Multiplicity where
  | none | one | several
  deriving DecidableEq

def Multiplicity.of : List α → Multiplicity
  | [] => .none
  | [_] => .one
  | _ => .several

namespace Catalog

inductive ItemClass where
  | smartWearable | wearable | emote
  /-- No category, or one that is not of catalog items. -/
  | any
  deriving DecidableEq

def itemClass (f : Filters.Catalog) : ItemClass :=
  match f.category with
  | some .wearable => if isSet f.isWearableSmart then .smartWearable else .wearable
  | some .emote => .emote
  | _ => .any

def ItemClass.condition : ItemClass → Option Fragment
  | .smartWearable => some (.text ("items.item_type = " ++ smartWearableType))
  | .wearable => some (.text ("items.item_type IN " ++ wearableTypes))
  | .emote => some (.text ("items.item_type = " ++ emoteType))
  | .any => none

theorem category_eq (f : Filters.Catalog) : category f = (itemClass f).condition := by
  cases hc : f.category with
  | none => simp [category, itemClass, ItemClass.condition, hc]
  | some c =>
    cases c <;> simp only [category, itemClass, ItemClass.condition, hc]
    split <;> rfl

/-- The flags that restrict the items when they are set to true. That of smart wearables belongs to
the class of the items. -/
structure Flags where
  isSoldOut : Bool
  isWearableHead : Bool
  isWearableAccessory : Bool
  onlyListing : Bool
  onlyMinting : Bool
  emoteHasSound : Bool
  emoteHasGeometry : Bool
  deriving DecidableEq

def flags (f : Filters.Catalog) : Flags where
  isSoldOut := isSet f.isSoldOut
  isWearableHead := isSet f.isWearableHead
  isWearableAccessory := isSet f.isWearableAccessory
  onlyListing := isSet f.onlyListing
  onlyMinting := isSet f.onlyMinting
  emoteHasSound := isSet f.emoteHasSound
  emoteHasGeometry := isSet f.emoteHasGeometry

/-- The key that was asked for, after defaults; the direction only where the key heeds it. -/
def sorting (f : Filters.Catalog) : Option (SortKey × Option SortDirection) :=
  if f.sortBy.isSome || f.sortDirection.isSome then
    let (key, direction) := Ordering.effective f
    some (key, if key = .other then some direction else none)
  else none

def sortingText (s : SortKey × Option SortDirection) : String :=
  Ordering.key s.1 (s.2.getD .desc)

theorem requested_eq (f : Filters.Catalog) :
    Ordering.requested f = (sorting f).map fun s => .text (sortingText s) := by
  rw [Ordering.requested, sorting]
  cases f.sortBy.isSome || f.sortDirection.isSome with
  | false => rfl
  | true =>
    obtain ⟨key, direction⟩ := Ordering.effective f
    cases key <;> rfl

def page (f : Filters.Catalog) : Option (UInt32 × UInt32) :=
  f.limit.bind fun l => f.offset.map (l, ·)

def pageText (p : UInt32 × UInt32) : String :=
  "LIMIT " ++ toString p.1.toNat ++ " OFFSET " ++ toString p.2.toNat

theorem pagination_eq (f : Filters.Catalog) :
    Ordering.pagination f.limit f.offset = (page f).map fun p => .text (pageText p) := by
  rw [page]
  cases f.limit <;> cases f.offset <;> rfl

def inlineTerm (f : Filters.Catalog) : Option String :=
  if f.ids.isEmpty then f.term? else none

theorem searchesInline_eq (f : Filters.Catalog) :
    f.searchesInline = (inlineTerm f).isSome := by
  rw [Filters.Catalog.searchesInline, inlineTerm]
  cases f.ids.isEmpty <;> simp

/-- A search is ranked inside its statement exactly if it has a term and no ids. -/
theorem searchesInline_iff_term {f : Filters.Catalog} :
    f.searchesInline = true ↔ f.term?.isSome = true ∧ f.ids = [] := by
  rw [Filters.Catalog.searchesInline, Bool.and_eq_true_iff, List.isEmpty_iff]

theorem inlineTerm_eq_some_iff {f : Filters.Catalog} {term : String} :
    inlineTerm f = some term ↔ f.term? = some term ∧ f.ids = [] := by
  rw [inlineTerm, ← List.isEmpty_iff]
  cases f.ids.isEmpty <;> simp

def rankingSources (schemas : Schemas) (f : Filters.Catalog) : List Fragment :=
  match inlineTerm f with
  | some term => Ranking.sources schemas term ++ [Source.searchCandidates schemas f.network term]
  | none => []

theorem sources_eq (schemas : Schemas) (marketplaces : List String) (f : Filters.Catalog) :
    sources schemas marketplaces f =
      Source.unifiedTrades schemas marketplaces :: rankingSources schemas f := by
  rw [sources, rankingSources, inlineTerm]
  cases f.term? <;> cases f.ids.isEmpty <;> rfl

end Catalog

theorem Ranking.hasInfix_iff {part cs : List Char} : hasInfix part cs = true ↔ part <:+: cs := by
  induction cs with
  | nil => simp [hasInfix]
  | cons c cs ih => simp [hasInfix, ih, List.infix_cons_iff]

/-- A term speaks of utility if the word stands anywhere in it, in letters of either case. -/
theorem Ranking.mentionsUtility_iff {term : String} :
    mentionsUtility term = true ↔ "utility".toList <:+: (Text.lowercase term).toList :=
  hasInfix_iff

def rankingVariant (network : Option Network) (term : String) : Bool × Bool :=
  (Ranking.mentionsUtility term, network = some .ethereum)

theorem Source.latestMetadataJoin_congr {m n : Option Network}
    (h : decide (m = some .ethereum) = decide (n = some .ethereum)) :
    latestMetadataJoin m = latestMetadataJoin n := by
  rw [decide_eq_decide] at h
  unfold latestMetadataJoin
  split <;> split <;> simp_all

end MarketQuery.Query
