import MarketQuery.Proofs.Sql.Prefix
import MarketQuery.Query.Condition
import Mathlib.Data.List.Forall2

namespace MarketQuery.Query.Condition

open Sql (Distinct Fragment Param)
open Sql.Fragment (Opens append_assoc append_right_inj bind_append_inj)

/-- A condition that opens with a word of its own and shows where it ends. -/
structure Legible (w : List Char) (c : Condition F) : Prop where
  opens : ∀ f x, c.build f = some x → Opens w x
  delimited : ∀ f g x y, c.build f = some x → c.build g = some y →
    ∀ r s, x ++ r = y ++ s → x = y

def clause (table : List (Condition F)) (f : F) : Fragment :=
  .concat ((present table f).map fun p => .text separator ++ p.2)

theorem clause_cons_some {c : Condition F} {table : List (Condition F)} {f : F} {x : Fragment}
    (h : c.build f = some x) :
    clause (c :: table) f = .text separator ++ (x ++ clause table f) := by
  have hp : present (c :: table) f = (c.dimension, x) :: present table f := by simp [present, h]
  rw [clause, hp, List.map_cons, Fragment.concat_cons, append_assoc]
  rfl

theorem clause_cons_none {c : Condition F} {table : List (Condition F)} {f : F}
    (h : c.build f = none) : clause (c :: table) f = clause table f := by
  have hp : present (c :: table) f = present table f := by simp [present, h]
  rw [clause, hp]
  rfl

theorem clause_congr {table : List (Condition F)} {f g : F}
    (h : ∀ c ∈ table, c.build f = c.build g) : clause table f = clause table g := by
  have hp : present table f = present table g := by
    refine List.filterMap_congr fun c hc => ?_
    rw [h c hc]
  rw [clause, clause, hp]

theorem clause_append (s t : List (Condition F)) (f : F) :
    clause (s ++ t) f = clause s f ++ clause t f := by
  rw [clause, present, List.filterMap_append, List.map_append, Fragment.concat_append]
  rfl

/-- Joined conditions are the same conditions behind others, but for the first separator. -/
theorem clause_eq_join (table : List (Condition F)) (f : F) :
    clause table f = (Fragment.join separator ((present table f).map (·.2))).elim .empty
      (.text separator ++ ·) := by
  rw [clause]
  cases present table f with
  | nil => rfl
  | cons p ps =>
    rw [List.map_cons, List.map_cons, Fragment.concat_cons, Fragment.join, List.map_map,
      Option.elim_some, append_assoc]
    rfl

/-- What opens with a word that none of these conditions opens with is not the first of them. -/
theorem clause_ne {words : List (List Char)} {table : List (Condition F)}
    (h : List.Forall₂ Legible words table) {w : List Char} (hw : ∀ v ∈ words, Distinct w v)
    {x : Fragment} (hx : Opens w x) {r s : Fragment} (hs : ¬ Opens separator.toList s) {g : F} :
    .text separator ++ (x ++ r) ≠ clause table g ++ s := by
  induction h with
  | nil =>
    intro he
    refine hs (?_ : Opens separator.toList (Fragment.empty ++ s))
    exact he ▸ ⟨(x ++ r).atoms, rfl⟩
  | @cons v c words table hc _ ih =>
    rw [List.forall_mem_cons] at hw
    obtain ⟨hv, hw⟩ := hw
    cases hg : c.build g with
    | none =>
      rw [clause_cons_none hg]
      exact ih hw
    | some y =>
      rw [clause_cons_some hg, append_assoc, append_assoc]
      intro he
      rw [append_right_inj] at he
      exact (hx.append r).ne ((hc.opens g y hg).append _) hv he

/-- Equal clauses have equal conditions, and what follows them is equal, too. -/
theorem clause_inj {words : List (List Char)} {table : List (Condition F)}
    (h : List.Forall₂ Legible words table) (hwords : words.Pairwise Distinct) {f g : F}
    {r s : Fragment} (hr : ¬ Opens separator.toList r) (hs : ¬ Opens separator.toList s)
    (he : clause table f ++ r = clause table g ++ s) :
    (∀ c ∈ table, c.build f = c.build g) ∧ r = s := by
  induction h with
  | nil => exact ⟨by simp, he⟩
  | @cons w c words table hc htable ih =>
    rw [List.pairwise_cons] at hwords
    obtain ⟨hw, hwords⟩ := hwords
    cases hf : c.build f with
    | none =>
      cases hg : c.build g with
      | none =>
        rw [clause_cons_none hf, clause_cons_none hg] at he
        obtain ⟨hbuild, hrs⟩ := ih hwords he
        exact ⟨List.forall_mem_cons.mpr ⟨hf.trans hg.symm, hbuild⟩, hrs⟩
      | some y =>
        rw [clause_cons_none hf, clause_cons_some hg, append_assoc, append_assoc] at he
        exact absurd he.symm (clause_ne htable hw (hc.opens g y hg) hr)
    | some x =>
      cases hg : c.build g with
      | none =>
        rw [clause_cons_some hf, clause_cons_none hg, append_assoc, append_assoc] at he
        exact absurd he (clause_ne htable hw (hc.opens f x hf) hs)
      | some y =>
        rw [clause_cons_some hf, clause_cons_some hg, append_assoc, append_assoc, append_assoc,
          append_assoc, append_right_inj] at he
        obtain rfl := hc.delimited f g x y hf hg _ _ he
        obtain ⟨hbuild, hrs⟩ := ih hwords ((append_right_inj x).mp he)
        exact ⟨List.forall_mem_cons.mpr ⟨hf.trans hg.symm, hbuild⟩, hrs⟩

section Builders

variable {F : Type} {name : String} {v : List Char}

theorem legible_flag {holds : F → Bool} :
    Legible v ⟨name, fun f => flag (holds f) (String.ofList v)⟩ := by
  have htext : ∀ f x, flag (holds f) (String.ofList v) = some x → x = .text (String.ofList v) := by
    intro f x hx
    rw [flag] at hx
    split at hx <;> cases hx
    rfl
  refine ⟨fun f x hx => ?_, fun f g x y hx hy _ _ _ => ?_⟩
  · rw [htext f x hx]
    exact Fragment.opens_text v
  · rw [htext f x hx, htext g y hy]

/-- A value in front of which a word stands shows all that may differ behind it. -/
theorem legible_of_bind {c : Condition F} {t : Param → Fragment}
    (h : ∀ f x, c.build f = some x →
      ∃ p, x = .text (String.ofList v) ++ (.bind p ++ t p)) : Legible v c := by
  refine ⟨fun f x hx => ?_, fun f g x y hx hy r s he => ?_⟩
  · obtain ⟨p, rfl⟩ := h f x hx
    exact (Fragment.opens_text v).append _
  · obtain ⟨p, rfl⟩ := h f x hx
    obtain ⟨q, rfl⟩ := h g y hy
    simp only [append_assoc, append_right_inj, bind_append_inj] at he
    rw [he.1]

theorem legible_value {after : String} {get : F → Option Param} :
    Legible v ⟨name, fun f => value (String.ofList v) after (get f)⟩ := by
  refine legible_of_bind (t := fun _ => .text after) fun f x hx => ?_
  obtain ⟨p, -, rfl⟩ := Option.map_eq_some_iff.mp hx
  exact ⟨p, append_assoc _ _ _⟩

theorem legible_values {get : F → List String} :
    Legible v ⟨name, fun f => values (String.ofList v) (get f)⟩ := by
  refine legible_of_bind (t := fun _ => .text ")") fun f x hx => ?_
  simp only [values] at hx
  split at hx <;> cases hx
  exact ⟨_, append_assoc _ _ _⟩

theorem legible_twice {between after : String} {get : F → Option Param} :
    Legible v ⟨name, fun f => twice (String.ofList v) between after (get f)⟩ := by
  refine legible_of_bind (t := fun p => .text between ++ (.bind p ++ .text after))
    fun f x hx => ?_
  obtain ⟨p, -, rfl⟩ := Option.map_eq_some_iff.mp hx
  exact ⟨p, by simp only [append_assoc]⟩

end Builders

theorem flag_inj {a b : Bool} {text : String} (h : flag a text = flag b text) : a = b := by
  cases a <;> cases b
  · rfl
  · cases h
  · cases h
  · rfl

theorem value_inj {before after : String} {v w : Option Param}
    (h : value before after v = value before after w) : v = w := by
  refine Option.map_injective (fun p q hpq => ?_) h
  simp only [append_assoc, append_right_inj, bind_append_inj] at hpq
  exact hpq.1

theorem values_inj {before : String} {vs ws : List String}
    (h : values before vs = values before ws) : vs = ws := by
  cases vs with
  | nil =>
    cases ws with
    | nil => rfl
    | cons w ws => cases h
  | cons v vs =>
    cases ws with
    | nil => cases h
    | cons w ws =>
      have hx := Option.some.inj h
      simp only [append_assoc, append_right_inj, bind_append_inj, Param.textArray.injEq] at hx
      exact hx.1

theorem twice_inj {before between after : String} {v w : Option Param}
    (h : twice before between after v = twice before between after w) : v = w := by
  refine Option.map_injective (fun p q hpq => ?_) h
  simp only [append_assoc, append_right_inj, bind_append_inj] at hpq
  exact hpq.1

/-- No two terms have the same word. -/
theorem word_injective {α : Type} [Vocabulary α] :
    Function.Injective (Vocabulary.word (α := α)) := by
  intro a b h
  have hs := congrArg (Vocabulary.ofWord? (α := α)) h
  rw [Vocabulary.ofWord?_word, Vocabulary.ofWord?_word] at hs
  exact Option.some.inj hs

theorem network_inj {m n : Option Filters.Network}
    (h : (m.map Filters.Network.indexed).getD [] =
      (n.map Filters.Network.indexed).getD []) : m = n := by
  rcases m with _ | _ | _ <;> rcases n with _ | _ | _ <;>
    first
    | rfl
    | exact absurd h (by decide)

end MarketQuery.Query.Condition
