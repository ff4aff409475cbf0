import MarketQuery.Proofs.Sql.Clean
import MarketQuery.Query.Condition
import MarketQuery.Query.Ranking

namespace MarketQuery.Query

open Filters (Network)
open Sql (Fragment Param isClean)
open Sql.Fragment (Clean)

set_option maxRecDepth 10000

section Parts

variable {schemas : Schemas} (h : schemas.Plain)

theorem clean_withClause {sources : List Fragment} (hs : ∀ f ∈ sources, Clean f) :
    Clean ((withClause sources).getD .empty) := by
  rw [withClause]
  cases hj : Fragment.join ",\n" sources with
  | none => exact .empty
  | some f => exact .behind rfl (.join (.literal rfl) hs hj)

theorem Source.clean_latestMetadataJoin (network : Option Network) :
    Clean (latestMetadataJoin network) := by
  unfold latestMetadataJoin
  split
  · exact .literal rfl
  · exact .literal rfl

theorem Ranking.clean_utilityScore (term : String) : Clean (utilityScore term) :=
  .value _ rfl rfl

include h

theorem Source.clean_latestMetadata : Clean (latestMetadata schemas) := by
  apply Clean.fill
  simp only [latestMetadataText, List.forall_mem_cons]
  exact ⟨.literal rfl, .name h _, .literal rfl, by simp⟩

theorem Source.clean_builderServerItems (term : String) :
    Clean (builderServerItems schemas term) := by
  have hhead : Clean (builderServerItemsHead.fill schemas) := by
    apply Clean.fill
    simp only [builderServerItemsHead, List.forall_mem_cons]
    exact ⟨.literal rfl, .name h _, .literal rfl, by simp⟩
  exact (hhead.append (.bind _)).append (.literal rfl)

theorem Source.clean_unifiedTrades (marketplaces : List String) :
    Clean (unifiedTrades schemas marketplaces) := by
  have hhead : Clean (unifiedTradesHead.fill schemas) := by
    apply Clean.fill
    simp only [unifiedTradesHead, List.forall_mem_cons]
    exact ⟨.literal rfl, .name h _, .literal rfl, .name h _, .literal rfl, .name h _, .literal rfl,
      .name h _, .literal rfl, .name h _, .literal rfl, .name h _, .literal rfl, .name h _,
      .literal rfl, .name h _, .literal rfl, .name h _, .literal rfl, .name h _, .literal rfl,
      by simp⟩
  exact (hhead.append (.bind _)).append (.literal rfl)

theorem Ranking.clean_utilityBranch (term : String) : Clean (utilityBranch schemas term) := by
  have hfrom : Clean (utilityFrom.fill schemas) := by
    apply Clean.fill
    simp only [utilityFrom, List.forall_mem_cons]
    exact ⟨.literal rfl, .name h _, .literal rfl, .name h _, .literal rfl, by simp⟩
  have hscore := clean_utilityScore term
  unfold utilityBranch
  split
  · exact ((Clean.behind rfl ((Clean.behind rfl hscore).append (.literal rfl))).append
      hfrom).append .empty
  · exact ((Clean.behind rfl hscore).append hfrom).append (.behind rfl (.bind _))

theorem Ranking.clean_tagOrNameBranch (network : Option Network) (term : String) :
    Clean (tagOrNameBranch schemas network term) := by
  have hfrom : Clean (tagOrNameFrom.fill schemas) := by
    apply Clean.fill
    simp only [tagOrNameFrom, List.forall_mem_cons]
    exact ⟨.literal rfl, .name h _, .literal rfl, by simp⟩
  have hjoins : Clean (tagOrNameJoins.fill schemas) := by
    apply Clean.fill
    simp only [tagOrNameJoins, List.forall_mem_cons]
    exact ⟨.literal rfl, .name h _, .literal rfl, .name h _, .literal rfl, .literal rfl,
      .literal rfl, .name h _, .literal rfl, by simp⟩
  exact ((((Clean.behind rfl (.bind _)).append hfrom).append
    (Source.clean_latestMetadataJoin network)).append hjoins).append (.bind _)

theorem Ranking.clean_candidateUnion (network : Option Network) (term : String) :
    Clean (candidateUnion schemas network term) :=
  (((Clean.behind rfl (clean_utilityBranch h term)).append (.literal rfl)).append
    (clean_tagOrNameBranch h network term)).append (.literal rfl)

theorem Source.clean_searchCandidates (network : Option Network) (term : String) :
    Clean (searchCandidates schemas network term) :=
  (Clean.behind rfl (Ranking.clean_candidateUnion h network term)).append (.literal rfl)

theorem Ranking.clean_sources (term : String) : ∀ f ∈ sources schemas term, Clean f := by
  simp only [sources, List.forall_mem_cons]
  exact ⟨Source.clean_latestMetadata h, Source.clean_builderServerItems h term, by simp⟩

theorem Ranking.clean_body (f : Filters.Catalog) (term : String) : Clean (body schemas f term) := by
  have hids : Clean (if f.ids.isEmpty then .empty
      else .text "array_position(" ++ .bind (.textArray f.ids) ++ .text "::text[], id), ") := by
    split
    · exact .empty
    · exact .value _ rfl rfl
  have hsources := clean_withClause (clean_sources h term)
  have hunion := clean_candidateUnion h f.network term
  exact ((((hsources.append (.literal rfl)).append hunion).append (.literal rfl)).append
    hids).append (.literal rfl)

end Parts

namespace Condition

def CleanIfAny (x : Option Fragment) : Prop := ∀ f, x = some f → Clean f

theorem clean_flag {holds : Bool} {text : String} (h : Clean (.text text)) :
    CleanIfAny (flag holds text) := by
  intro f hf
  rw [flag] at hf
  split at hf
  · exact Option.some.inj hf ▸ h
  · contradiction

theorem clean_value {before after : List Char} {v : Option Param} (hb : isClean before = true)
    (ha : isClean after = true) :
    CleanIfAny (value (String.ofList before) (String.ofList after) v) := by
  intro f hf
  obtain ⟨p, -, rfl⟩ := Option.map_eq_some_iff.mp hf
  exact .value p hb ha

theorem clean_values {before : List Char} {vs : List String} (hb : isClean before = true) :
    CleanIfAny (values (String.ofList before) vs) := by
  intro f hf
  rw [values] at hf
  split at hf
  · contradiction
  · exact Option.some.inj hf ▸ .value _ hb rfl

theorem clean_twice {before between after : List Char} {v : Option Param}
    (hb : isClean before = true) (hm : isClean between = true) (ha : isClean after = true) :
    CleanIfAny
      (twice (String.ofList before) (String.ofList between) (String.ofList after) v) := by
  intro f hf
  obtain ⟨p, -, rfl⟩ := Option.map_eq_some_iff.mp hf
  exact ((Clean.value p hb hm).append (.bind p)).append (.literal ha)

/-- The conditions that are present are clean if all those of the table are. -/
theorem clean_present {F : Type} {table : List (Condition F)} {f : F}
    (h : ∀ c ∈ table, CleanIfAny (c.build f)) : ∀ p ∈ present table f, Clean p.2 := by
  intro p hp
  obtain ⟨c, hc, hb⟩ := List.mem_filterMap.mp hp
  obtain ⟨x, hx, rfl⟩ := Option.map_eq_some_iff.mp hb
  exact h c hc x hx

end Condition

end MarketQuery.Query
