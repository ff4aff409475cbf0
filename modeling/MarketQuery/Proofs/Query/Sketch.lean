import MarketQuery.Proofs.Query.Legible
import MarketQuery.Proofs.Sql.Sketch
import MarketQuery.Query.Ranking

namespace MarketQuery.Query

open Filters (Network)
open Sql (Fragment Param Sketch Slot)
open Sql.Sketch (Draws)

set_option maxRecDepth 10000

theorem draws_withClause {schemas : Schemas} {contracts : List String} {a b w : Sketch}
    {f : Fragment} {fs : List Fragment} (hw : w.Draws schemas contracts (.text "WITH "))
    (hf : a.Draws schemas contracts f)
    (hs : b.Draws schemas contracts (.concat (fs.map (.text ",\n" ++ ·)))) :
    (Sketch.append w (.append a b)).Draws schemas contracts ((withClause (f :: fs)).getD .empty) :=
  .append hw (.append hf hs)

namespace Source

def unifiedTradesSketch : { k : Sketch // ∀ schemas (marketplaces : List String),
    k.Draws schemas (marketplaces.map Text.lowercase) (unifiedTrades schemas marketplaces) } :=
  ⟨_, fun _ _ => .append (.append
    (.piece <| .piece <| .piece <| .piece <| .piece <| .piece <| .piece <| .piece <| .piece <|
      .piece .last)
    .settled) .literal⟩

def latestMetadataSketch :
    { k : Sketch // ∀ schemas contracts, k.Draws schemas contracts (latestMetadata schemas) } :=
  ⟨_, fun _ _ => .piece .last⟩

def builderServerItemsSketch : { k : Sketch // ∀ schemas contracts term,
    k.Draws schemas contracts (builderServerItems schemas term) } :=
  ⟨_, fun _ _ _ => .append (.append (.piece .last) (.bound _)) .literal⟩

theorem draws_latestMetadataJoin {schemas : Schemas} {contracts : List String} {a b : Sketch}
    (hethereum : a.Draws schemas contracts (latestMetadataJoin (some .ethereum)))
    (hother : b.Draws schemas contracts (latestMetadataJoin none)) (network : Option Network) :
    (Sketch.either a b).Draws schemas contracts (latestMetadataJoin network) := by
  rcases network with _ | _ | _
  · exact .right hother
  · exact .left hethereum
  · exact .right hother

end Source

namespace Ranking

def utilityBranchSketch : { k : Sketch // ∀ schemas contracts term,
    k.Draws schemas contracts (utilityBranch schemas term) } :=
  ⟨_, fun _ _ _ => .append (.append (.append .literal (.ite
      (fun _ => .append (.append .literal
        (.append (.append .literal (.bound _)) .literal)) .literal)
      (fun _ => .append (.append .literal (.bound _)) .literal)))
    (.piece <| .piece .last))
    (.ite (fun _ => .empty) (fun _ => .append .literal (.bound _)))⟩

def tagOrNameBranchSketch : { k : Sketch // ∀ schemas contracts network term,
    k.Draws schemas contracts (tagOrNameBranch schemas network term) } :=
  ⟨_, fun _ _ network _ => .append (.append (.append (.append (.append .literal
      (.bound _)) (.piece .last))
      (Source.draws_latestMetadataJoin .literal .literal network))
      (.piece <| .piece <| .glued <| .glued <| .piece .last))
      (.bound _)⟩

def candidateUnionSketch : { k : Sketch // ∀ schemas contracts network term,
    k.Draws schemas contracts (candidateUnion schemas network term) } :=
  ⟨_, fun schemas contracts network term => .append (.append (.append (.append .literal
      (utilityBranchSketch.property schemas contracts term)) .literal)
      (tagOrNameBranchSketch.property schemas contracts network term)) .literal⟩

def searchCandidatesSketch : { k : Sketch // ∀ schemas contracts network term,
    k.Draws schemas contracts (Source.searchCandidates schemas network term) } :=
  ⟨_, fun schemas contracts network term => .append (.append .literal
    (candidateUnionSketch.property schemas contracts network term)) .literal⟩

def sketch : { k : Sketch // ∀ schemas contracts f term,
    k.Draws schemas contracts (body schemas f term) } :=
  ⟨_, fun schemas contracts f term => .append (.append (.append (.append (.append
      (draws_withClause .literal (Source.latestMetadataSketch.property schemas contracts)
        (.cons (.append .literal
          (Source.builderServerItemsSketch.property schemas contracts term)) .nil))
      .literal) (candidateUnionSketch.property schemas contracts f.network term)) .literal)
    (.ite (fun _ => .empty) (fun h => .append (.append .literal
      (.texts fun he => h (List.isEmpty_iff.mpr he))) .literal)))
    .literal⟩

end Ranking

namespace Condition

variable {schemas : Schemas} {contracts : List String}

def Drawn (schemas : Schemas) (contracts : List String) (k : Sketch) (x : Option Fragment) : Prop :=
  ∀ f, x = some f → k.Draws schemas contracts f

theorem drawn_some {k : Sketch} {f : Fragment} (h : k.Draws schemas contracts f) :
    Drawn schemas contracts k (some f) := by
  intro g hg
  exact Option.some.inj hg ▸ h

theorem drawn_flag {k : Sketch} {holds : Bool} {text : String}
    (h : k.Draws schemas contracts (.text text)) : Drawn schemas contracts k (flag holds text) := by
  intro f hf
  rw [flag] at hf
  split at hf
  · exact Option.some.inj hf ▸ h
  · contradiction

theorem drawn_value {slot : Slot} {before after : List Char} {v : Option Param}
    (h : ∀ p, v = some p → slot.Holds contracts p) :
    Drawn schemas contracts (.append (.append (.text before) (.value slot)) (.text after))
      (value (String.ofList before) (String.ofList after) v) := by
  intro f hf
  obtain ⟨p, hp, rfl⟩ := Option.map_eq_some_iff.mp hf
  exact .append (.append .literal (.value (h p hp))) .literal

theorem drawn_values {before : List Char} {vs : List String} {k : Sketch}
    (hk : k.Draws schemas contracts (.text ")")) :
    Drawn schemas contracts (.append (.append (.text before) (.value .texts)) k)
      (values (String.ofList before) vs) := by
  intro f hf
  rw [values] at hf
  split at hf
  · contradiction
  · have hne : vs ≠ [] := fun he => ‹¬ vs.isEmpty› (List.isEmpty_iff.mpr he)
    exact Option.some.inj hf ▸ .append (.append .literal (.value ⟨vs, rfl, hne⟩)) hk

theorem drawn_twice {slot : Slot} {before between after : List Char} {v : Option Param}
    (h : ∀ p, v = some p → slot.Holds contracts p) :
    Drawn schemas contracts
      (.append (.append (.append (.append (.text before) (.value slot)) (.text between))
        (.value slot)) (.text after))
      (twice (String.ofList before) (String.ofList between) (String.ofList after) v) := by
  intro f hf
  obtain ⟨p, hp, rfl⟩ := Option.map_eq_some_iff.mp hf
  have hv := h p hp
  exact .append (.append (.append (.append .literal (.value hv)) .literal) (.value hv)) .literal

def clauseSketch (before : Sketch) (ks : List Sketch) : Sketch :=
  ks.foldr (fun k r => .append (.either (.append before k) .empty) r) .empty

def joinSketch (before : Sketch) : List Sketch → Sketch
  | [] => .empty
  | k :: ks => .either (.append k (clauseSketch before ks)) (joinSketch before ks)

variable {F : Type} {table : List (Condition F)} {f : F} {before : Sketch} {ks : List Sketch}

/-- A clause is drawn after the sketches of its conditions, each of which may be missing. -/
theorem draws_clause (hb : before.Draws schemas contracts (.text separator))
    (h : List.Forall₂ (fun k c => Drawn schemas contracts k (c.build f)) ks table) :
    (clauseSketch before ks).Draws schemas contracts (clause table f) := by
  induction h with
  | nil => exact .nil
  | @cons k c ks table hc _ ih =>
    cases hf : c.build f with
    | none =>
      rw [clause_cons_none hf, ← Fragment.empty_append (clause table f)]
      exact .append (.right .empty) ih
    | some x =>
      rw [clause_cons_some hf, ← Fragment.append_assoc]
      exact .append (.left (.append hb (hc x hf))) ih

theorem draws_join (hb : before.Draws schemas contracts (.text separator))
    (h : List.Forall₂ (fun k c => Drawn schemas contracts k (c.build f)) ks table)
    {x : Fragment} (hx : Fragment.join separator ((present table f).map (·.2)) = some x) :
    (joinSketch before ks).Draws schemas contracts x := by
  induction h with
  | nil => cases hx
  | @cons k c ks table hc htable ih =>
    cases hf : c.build f with
    | none =>
      have hp : present (c :: table) f = present table f := by simp [present, hf]
      rw [hp] at hx
      exact .right (ih hx)
    | some y =>
      have hp : present (c :: table) f = (c.dimension, y) :: present table f := by
        simp [present, hf]
      rw [hp] at hx
      have hclause : x = y ++ clause table f := by
        rw [List.map_cons, Fragment.join, List.map_map] at hx
        exact (Option.some.inj hx).symm
      rw [hclause]
      exact .left (.append (hc y hf) (draws_clause hb htable))

end Condition

end MarketQuery.Query
