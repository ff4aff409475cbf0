import MarketQuery.Proofs.Sql.Lexis
import MarketQuery.Proofs.Sql.Outline
import Mathlib.Data.List.Infix
import Mathlib.Data.List.ReduceOption

namespace MarketQuery.Sql

/-- Quotes pair up, and outside of literals parentheses are balanced. -/
structure Balanced (cs : List Char) : Prop where
  quotes : cs.count '\'' % 2 = 0
  /-- No beginning closes more than it opens. -/
  neverBelow : ∀ p, p <+: cs → (outside false p).count ')' ≤ (outside false p).count '('
  closed : (outside false cs).count ')' = (outside false cs).count '('

/-- The letters that stand in neither parentheses nor literals. What is inside, the marks
themselves, and values leave gaps. -/
def surface (n : Nesting) : List (Option Char) → List (Option Char)
  | [] => []
  | none :: o => none :: surface n o
  | some c :: o =>
    (if n = .top ∧ n.next c = .top then some c else none) :: surface (n.next c) o

def surfaceWords (o : List (Option Char)) : List (List Char) :=
  ((surface .top o).splitOnP fun x => !x.any isWordy).map List.reduceOption

structure Conjunct (o : List (Option Char)) : Prop extends Balanced o.reduceOption where
  noOr : ∀ w ∈ surfaceWords o, w.map Char.toLower ≠ ['o', 'r']

instance : DecidablePred Balanced := fun cs =>
  decidable_of_iff
    (cs.count '\'' % 2 = 0 ∧
      (∀ p ∈ cs.inits, (outside false p).count ')' ≤ (outside false p).count '(') ∧
      (outside false cs).count ')' = (outside false cs).count '(')
    ⟨fun ⟨hquotes, hbelow, hclosed⟩ =>
        ⟨hquotes, fun p hp => hbelow p ((List.mem_inits p cs).mpr hp), hclosed⟩,
      fun h => ⟨h.quotes, fun p hp => h.neverBelow p ((List.mem_inits p cs).mp hp), h.closed⟩⟩

instance : DecidablePred Conjunct := fun o =>
  decidable_of_iff (Balanced o.reduceOption ∧ ∀ w ∈ surfaceWords o, w.map Char.toLower ≠ ['o', 'r'])
    ⟨fun ⟨hbalanced, hor⟩ => ⟨hbalanced, hor⟩, fun h => ⟨h.toBalanced, h.noOr⟩⟩

example : Conjunct ("(a OR b = ".toList.map some ++ none :: " OR c = ')')".toList.map some) := by
  decide +kernel

example : ¬ Conjunct ("(a)OR(b = ".toList.map some ++ none :: ")".toList.map some) := by
  decide +kernel

def isConjunct (o : List (Option Char)) : Bool :=
  (Lexis.scanner.run .start o.reduceOption).any
      (fun q => !q.literal && !q.quoted && q.depth == 0) &&
    (surfaceWords o).all fun w => w.map Char.toLower != ['o', 'r']

theorem conjunct_of_isConjunct {o : List (Option Char)} (h : isConjunct o = true) :
    Conjunct o := by
  obtain ⟨hscan, hwords⟩ := Bool.and_eq_true_iff.mp h
  obtain ⟨q, hq, hend⟩ := (Option.any_eq_true _ _).mp hscan
  simp only [Bool.and_eq_true, Bool.not_eq_true', beq_iff_eq] at hend
  have hsafe := LexicallySafe.of_run hq hend.1.1 hend.1.2 hend.2
  exact ⟨⟨hsafe.singleQuotes, hsafe.neverBelow, hsafe.closed⟩,
    fun w hw => by simpa using List.all_eq_true.mp hwords w hw⟩

namespace Balanced

variable {cs ds : List Char}

theorem not_isOdd (h : Balanced cs) : Lexis.isOdd '\'' cs = false := by
  rw [Lexis.isOdd, h.quotes]
  rfl

/-- Behind a balanced text, literals are where they would be without it. -/
theorem outside_append (h : Balanced cs) (ds : List Char) :
    outside false (cs ++ ds) = outside false cs ++ outside false ds := by
  rw [Lexis.outside_append, h.not_isOdd, Bool.false_xor]

/-- Balanced texts stay balanced one behind the other. -/
theorem append (hc : Balanced cs) (hd : Balanced ds) : Balanced (cs ++ ds) where
  quotes := by
    have hcs := hc.quotes
    have hds := hd.quotes
    rw [List.count_append]
    omega
  neverBelow p hp := by
    rcases List.prefix_or_prefix_of_prefix hp (List.prefix_append cs ds) with hp' | ⟨q, rfl⟩
    · exact hc.neverBelow p hp'
    · have hq := hd.neverBelow q ((List.prefix_append_right_inj cs).mp hp)
      rw [hc.outside_append, List.count_append, List.count_append, hc.closed]
      omega
  closed := by
    rw [hc.outside_append, List.count_append, List.count_append, hc.closed, hd.closed]

end Balanced

def Nesting.after (n : Nesting) (cs : List Char) : Nesting := cs.foldl Nesting.next n

/-- The depth counts the parentheses that are open, unless more are closed on the way. -/
theorem Nesting.after_top {cs : List Char}
    (h : ∀ p, p <+: cs → (outside false p).count ')' ≤ (outside false p).count '(') :
    (top.after cs).literal = Lexis.isOdd '\'' cs ∧
      (top.after cs).depth + (outside false cs).count ')' = (outside false cs).count '(' := by
  induction cs using List.reverseRecOn with
  | nil => exact ⟨rfl, rfl⟩
  | append_singleton cs c ih =>
    obtain ⟨hliteral, hdepth⟩ := ih fun p hp => h p (hp.trans (List.prefix_append cs [c]))
    have hlast := h _ List.prefix_rfl
    have hxor : (false ^^ Lexis.isOdd '\'' cs) = (top.after cs).literal := by
      rw [Bool.false_xor, hliteral]
    have houtside : outside false (cs ++ [c]) =
        outside false cs ++ if c = '\'' || (top.after cs).literal then [] else [c] := by
      rw [Lexis.outside_append, hxor, Lexis.outside_singleton]
    have hafter : top.after (cs ++ [c]) = (top.after cs).next c := List.foldl_concat ..
    rw [houtside, List.count_append, List.count_append] at hlast ⊢
    rw [hafter, Lexis.isOdd_append, Lexis.isOdd_singleton, ← hliteral]
    refine ⟨?_, Lexis.depth_next (q := ⟨top.after cs, false, none⟩) hdepth
      fun ⟨⟨hzero, hl⟩, hc⟩ => ?_⟩
    · rw [Nesting.next]
      by_cases hc : c = '\'' <;> simp [hc]
    · simp only at hzero hl
      rw [hc, hl] at hlast
      simp at hlast
      omega

/-- Behind a balanced text one is no deeper than before it. -/
theorem Balanced.after_top {cs : List Char} (h : Balanced cs) : Nesting.top.after cs = .top := by
  obtain ⟨hliteral, hdepth⟩ := Nesting.after_top h.neverBelow
  have hzero : (Nesting.top.after cs).depth = 0 := by
    have hclosed := h.closed
    omega
  rw [h.not_isOdd] at hliteral
  exact congrArg₂ Nesting.mk hliteral hzero

/-- The surface of a text is found part by part, once it is known how deep the second part begins.
-/
theorem surface_append (n : Nesting) (o r : List (Option Char)) :
    surface n (o ++ r) = surface n o ++ surface (n.after o.reduceOption) r := by
  induction o generalizing n with
  | nil => rfl
  | cons x o ih =>
    cases x with
    | none =>
      rw [List.cons_append, surface, surface, ih, List.reduceOption_cons_of_none]
      rfl
    | some c =>
      rw [List.cons_append, surface, surface, ih, List.reduceOption_cons_of_some]
      rfl

/-- Behind a balanced text and a gap, words are what they would be without them. -/
theorem surfaceWords_append {o : List (Option Char)} (h : Balanced o.reduceOption) {c : Char}
    (hgap : isWordy c = false) (htop : Nesting.top.next c = .top) (r : List (Option Char)) :
    surfaceWords (o ++ some c :: r) = surfaceWords o ++ surfaceWords r := by
  rw [surfaceWords, surface_append, h.after_top, surface, htop, if_pos ⟨rfl, rfl⟩,
    List.splitOnP_append_cons _ _ (by simp [hgap]), List.map_append]
  rfl

/-- Two conditions with AND between them are one. -/
theorem Conjunct.and {o r : List (Option Char)} (ho : Conjunct o) (hr : Conjunct r) :
    Conjunct (o ++ ("\n\tAND ".toList.map some ++ r)) where
  toBalanced := by
    have hseparator : Balanced ("\n\tAND ".toList.map some).reduceOption := by decide
    rw [List.reduceOption_append, List.reduceOption_append]
    exact ho.toBalanced.append (hseparator.append hr.toBalanced)
  noOr := by
    have hword : Conjunct ("\tAND".toList.map some) := by decide +kernel
    have hsplit : "\n\tAND ".toList.map some ++ r =
        some '\n' :: ("\tAND".toList.map some ++ some ' ' :: r) := rfl
    rw [hsplit, surfaceWords_append ho.toBalanced (by decide) (by decide),
      surfaceWords_append hword.toBalanced (by decide) (by decide)]
    intro w hw
    rcases List.mem_append.mp hw with hw | hw
    · exact ho.noOr w hw
    · exact (List.mem_append.mp hw).elim (hword.noOr w) (hr.noOr w)

end MarketQuery.Sql
