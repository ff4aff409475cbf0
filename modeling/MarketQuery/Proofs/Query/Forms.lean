import MarketQuery.Proofs.Query.Catalog.Legible
import MarketQuery.Proofs.Query.Nft.Constraints
import MarketQuery.Proofs.Sql.Conjunct

namespace MarketQuery.Query

open Sql (Atom Conjunct Fragment Param)

set_option maxRecDepth 4000

namespace Condition

/-- Where the condition is there, it has one of these outlines. -/
def Takes {F : Type} (forms : List (List (Option Char))) (c : Condition F) : Prop :=
  ∀ f x, c.build f = some x → x.outline ∈ forms

section Builders

variable {F : Type} {name : String} {u v w : List Char}

theorem outline_ofList (v : List Char) :
    (Fragment.text (String.ofList v)).outline = v.map some := by
  simp [Fragment.outline, Atom.outline, Function.comp_def]

theorem outline_close : (Fragment.text ")").outline = [some ')'] := rfl

theorem takes_flag {holds : F → Bool} :
    Takes [v.map some] ⟨name, fun f => flag (holds f) (String.ofList v)⟩ := by
  intro f x hx
  dsimp only [flag] at hx
  split at hx
  · cases hx
    exact List.mem_singleton.mpr (outline_ofList v)
  · contradiction

theorem takes_value {get : F → Option Param} :
    Takes [v.map some ++ none :: w.map some]
      ⟨name, fun f => value (String.ofList v) (String.ofList w) (get f)⟩ := by
  intro f x hx
  obtain ⟨p, -, rfl⟩ := Option.map_eq_some_iff.mp hx
  simp [outline_ofList]

theorem takes_values {get : F → List String} :
    Takes [v.map some ++ [none, some ')']]
      ⟨name, fun f => values (String.ofList v) (get f)⟩ := by
  intro f x hx
  dsimp only [values] at hx
  split at hx
  · contradiction
  · cases hx
    simp [outline_ofList, outline_close]

theorem takes_twice {get : F → Option Param} :
    Takes [v.map some ++ none :: (u.map some ++ none :: w.map some)]
      ⟨name, fun f => twice (String.ofList v) (String.ofList u) (String.ofList w) (get f)⟩ := by
  intro f x hx
  obtain ⟨p, -, rfl⟩ := Option.map_eq_some_iff.mp hx
  simp [outline_ofList]

theorem takes_flag_append {holds : F → Bool} :
    Takes [v.map some ++ w.map some]
      ⟨name, fun f => flag (holds f) (String.ofList v ++ String.ofList w)⟩ := by
  rw [← String.ofList_append, ← List.map_append]
  exact takes_flag

def Reads (o : List (Option Char)) (part : Option Fragment) : Prop :=
  ∀ x, part = some x → x.outline = o

theorem reads_none : Reads [] none := nofun

theorem reads_text : Reads (v.map some) (some (.text (String.ofList v))) := by
  rintro x ⟨⟩
  exact outline_ofList v

theorem reads_text_append :
    Reads (v.map some ++ w.map some) (some (.text (String.ofList v ++ String.ofList w))) := by
  rw [← String.ofList_append, ← List.map_append]
  exact reads_text

/-- A condition of which there are finitely many kinds. -/
theorem takes_kinds {α : Type} {build : F → Option Fragment}
    {forms : List (List (Option Char))} (part : α → Option Fragment) (kind : F → α)
    (kinds : List α) (hbuild : ∀ f, build f = part (kind f)) (hkinds : ∀ k, k ∈ kinds)
    (h : List.Forall₂ (fun o k => Reads o (part k)) forms kinds) : Takes forms ⟨name, build⟩ := by
  intro f x hx
  have hpart : part (kind f) = some x := (hbuild f).symm.trans hx
  have hmem := hkinds (kind f)
  clear hkinds
  induction h with
  | nil => cases hmem
  | cons hreads _ ih =>
    rcases List.mem_cons.mp hmem with hk | hmem
    · subst hk
      exact hreads x hpart ▸ List.mem_cons_self ..
    · exact List.mem_cons_of_mem _ (ih hmem)

end Builders

def Joinable (o : List (Option Char)) : Prop := Conjunct o ∧ some '\n' ∉ o

def isJoinable (o : List (Option Char)) : Bool := Sql.isConjunct o && !o.contains (some '\n')

theorem joinable_of_isJoinable {o : List (Option Char)} (h : isJoinable o = true) :
    Joinable o := by
  obtain ⟨hconjunct, hlines⟩ := Bool.and_eq_true_iff.mp h
  exact ⟨Sql.conjunct_of_isConjunct hconjunct, by simpa using hlines⟩

/-- What is found out of each form of a table holds of all conditions of all requests. -/
theorem joinable_of_takes {F : Type} {table : List (Condition F)}
    {forms : List (List (List (Option Char)))} (h : List.Forall₂ Takes forms table)
    (hforms : forms.flatten.all isJoinable = true) {f : F} {p : String × Fragment}
    (hp : p ∈ present table f) : Joinable p.2.outline := by
  induction h with
  | nil => cases hp
  | @cons form c forms table htakes _ ih =>
    rw [List.flatten_cons, List.all_append, Bool.and_eq_true_iff] at hforms
    rw [present, List.filterMap_cons] at hp
    cases hx : c.build f with
    | none =>
      rw [hx] at hp
      exact ih hforms.2 hp
    | some x =>
      rw [hx] at hp
      rcases List.mem_cons.mp hp with rfl | hp
      · exact joinable_of_isJoinable (List.all_eq_true.mp hforms.1 _ (htakes f x hx))
      · exact ih hforms.2 hp

end Condition

open Condition

namespace Catalog

def categoryForms : { forms // Takes forms ⟨"category", category⟩ } :=
  ⟨_, takes_kinds ItemClass.condition itemClass [.smartWearable, .wearable, .emote, .any]
    category_eq (fun k => by cases k <;> decide)
    (.cons reads_text_append <| .cons reads_text_append <| .cons reads_text_append <|
      .cons reads_none .nil)⟩

def isOnSaleForms : { forms // Takes forms ⟨"isOnSale", isOnSale⟩ } :=
  ⟨_, takes_kinds (fun k => isOnSale { isOnSale := k }) Filters.Catalog.isOnSale
    [none, some true, some false] (fun _ => rfl)
    (fun k => by rcases k with _ | _ | _ <;> decide)
    (.cons reads_none <| .cons reads_text <| .cons reads_text .nil)⟩

theorem takes_creator {v w : List Char} (hone : "items.creator = " = String.ofList v)
    (hseveral : "items.creator = ANY(" = String.ofList w) :
    Takes [v.map some ++ [none], w.map some ++ [none, some ')']] ⟨"creator", creator⟩ := by
  intro f x hx
  dsimp only [creator] at hx
  split at hx
  · cases hx
  · cases hx
    rw [hone]
    simp [outline_ofList]
  · cases hx
    rw [hseveral]
    simp [outline_ofList, outline_close]

theorem joinable_base : Joinable (Fragment.text baseCondition).outline :=
  joinable_of_isJoinable (by decide +kernel)

/-- The conditions on catalog items take finitely many forms, and each of them can be joined. -/
theorem exists_forms : ∃ forms, List.Forall₂ Takes forms conditions ∧
    forms.flatten.all isJoinable = true := by
  refine ⟨_, .cons categoryForms.property <| .cons takes_values <| .cons (takes_creator rfl rfl) <|
    .cons takes_flag <| .cons isOnSaleForms.property <| .cons takes_flag <| .cons takes_flag <|
    .cons takes_value <| .cons takes_values <| .cons takes_value <| .cons takes_value <|
    .cons takes_values <| .cons takes_values <| .cons takes_twice <| .cons takes_twice <|
    .cons takes_flag <| .cons takes_flag <| .cons takes_values <| .cons takes_flag <|
    .cons takes_flag <| .cons takes_values <| .cons takes_values .nil, ?_⟩
  decide +kernel

theorem joinable {f : Filters.Catalog} {p : String × Fragment}
    (hp : p ∈ Condition.present conditions f) : Joinable p.2.outline := by
  obtain ⟨forms, htakes, hforms⟩ := exists_forms
  exact joinable_of_takes htakes hforms hp

end Catalog

namespace Nft

theorem takes_itemRarities {u v w : List Char}
    (h : ∀ f, itemRarities f =
      Condition.twice (String.ofList u) (String.ofList v) (String.ofList w) (rarityValue f)) :
    Takes [u.map some ++ none :: (v.map some ++ none :: w.map some)]
      ⟨"itemRarities", itemRarities⟩ := by
  rw [funext h]
  exact takes_twice

/-- So it is with the conditions on tokens. -/
theorem exists_forms : ∃ forms, List.Forall₂ Takes forms conditions ∧
    forms.flatten.all isJoinable = true := by
  refine ⟨_, .cons takes_value <| .cons takes_value <| .cons takes_value <|
    .cons takes_value <| .cons takes_values <| .cons takes_flag <| .cons takes_flag <|
    .cons takes_value <| .cons takes_value <| .cons takes_value <| .cons takes_value <|
    .cons takes_flag <| .cons takes_flag <| .cons takes_flag <|
    .cons takes_flag_append <| .cons takes_values <| .cons takes_value <|
    .cons takes_value <| .cons takes_value <| .cons takes_flag <| .cons takes_value <|
    .cons takes_values <| .cons takes_values <| .cons takes_values <| .cons takes_values <|
    .cons (takes_itemRarities itemRarities_eq) <| .cons takes_twice <| .cons takes_twice <|
    .cons takes_flag .nil, ?_⟩
  decide +kernel

theorem joinable {f : Filters.Nft} {p : String × Fragment}
    (hp : p ∈ Condition.present conditions f) : Joinable p.2.outline := by
  obtain ⟨forms, htakes, hforms⟩ := exists_forms
  exact joinable_of_takes htakes hforms hp

end Nft

end MarketQuery.Query
