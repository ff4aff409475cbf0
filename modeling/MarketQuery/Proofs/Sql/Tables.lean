import MarketQuery.Proofs.Sql.Lexis

namespace MarketQuery.Sql

def Nesting.shows (n : Nesting) (c : Char) : Bool :=
  !n.literal && c ≠ '\'' && (if c = ')' then n.depth ≤ 1 else n.depth = 0)

/-- What is left of a text without what is inside of parentheses and of literals. -/
def outermost (n : Nesting) : List Char → List Char
  | [] => []
  | c :: cs => if n.shows c then c :: outermost (n.next c) cs else outermost (n.next c) cs

def tablesHead (names : List String) : List Char :=
  "WITH ".toList ++ ",\n".toList.intercalate (names.map fun n => n.toList ++ " AS ()".toList) ++
    "\nSELECT".toList

/-- The text defines these tables, in this order and no others, and then selects from something. -/
def DefinesTables (names : List String) (cs : List Char) : Prop :=
  tablesHead names <+: outermost .top cs

example : DefinesTables ["a", "b"] "WITH a AS (SELECT f(')')),\nb AS (c)\nSELECT 1".toList := by
  rw [DefinesTables]
  decide

structure Course extends Nesting where
  /-- What that text has still to begin with. -/
  ahead : List Char
  deriving DecidableEq

namespace Course

/-- Behind what the text has to begin with, nothing matters any more. -/
def step (q : Course) (c : Char) : Option Course :=
  match q.ahead with
  | [] => some q
  | d :: ds =>
    (q.toNesting.next c).force fun n =>
    match q.toNesting.shows c, decide (c = d) with
    | false, _ => some ⟨n, d :: ds⟩
    | true, true => some ⟨n, ds⟩
    | true, false => none

theorem step_cons (n : Nesting) (d : Char) (ds : List Char) (c : Char) :
    step ⟨n, d :: ds⟩ c =
      if n.shows c then (if c = d then some ⟨n.next c, ds⟩ else none)
      else some ⟨n.next c, d :: ds⟩ := by
  simp only [step, Nesting.force_eq]
  cases n.shows c <;> by_cases hc : c = d <;> simp [hc]

def word (q : Course) : Option Course :=
  if q.ahead = [] ∨ q.literal = true ∨ q.depth ≠ 0 then some q else none

theorem step_wordy {q s : Course} {c : Char} (h : q.word = some s) (hc : isWordy c = true) :
    q.step c = some s := by
  have hmark := Lexis.ne_mark (p := isWordy) (by decide) hc
  simp only [Lexis.marks, List.forall_mem_cons] at hmark
  obtain ⟨-, -, -, -, -, hquote, -, hopen, hclose, -⟩ := hmark
  obtain ⟨n, ahead⟩ := q
  rw [word] at h
  split at h
  · rename_i hinside
    cases h
    cases ahead with
    | nil => rfl
    | cons d ds =>
      have hnext : n.next c = n := by simp [Nesting.next, hquote, hopen, hclose]
      have hshows : n.shows c = false := by
        simp only [Nesting.shows, hclose, if_false]
        grind
      simp [step_cons, hshows, hnext]
  · cases h

def scanner : Scanner Course where
  step := step
  word := word
  step_wordy := step_wordy
  word_again h := by
    rw [word] at h
    split at h
    · cases h
      exact if_pos ‹_›
    · cases h

/-- The outermost text begins with what was ahead if nothing is left of it. -/
theorem prefix_of_run {q s : Course} {cs : List Char} (h : scanner.run q cs = some s)
    (hs : s.ahead = []) : q.ahead <+: outermost q.toNesting cs := by
  induction cs generalizing q with
  | nil =>
    cases h
    rw [hs]
    exact List.nil_prefix
  | cons c cs ih =>
    rw [Scanner.run, List.foldlM_cons] at h
    obtain ⟨t, ht, h⟩ := Option.bind_eq_some_iff.mp h
    have hrest := ih h
    obtain ⟨n, ahead⟩ := q
    cases ahead with
    | nil => exact List.nil_prefix
    | cons d ds =>
      have ht : step ⟨n, d :: ds⟩ c = some t := ht
      change d :: ds <+: outermost n (c :: cs)
      rw [step_cons] at ht
      rw [outermost]
      split at ht
      · rename_i hshows
        rw [if_pos hshows]
        split at ht
        · rename_i hc
          cases ht
          exact List.cons_prefix_cons.mpr ⟨hc.symm, hrest⟩
        · cases ht
      · rename_i hshows
        rw [if_neg hshows]
        cases ht
        exact hrest

end Course

def Sketch.tables (names : List String) (k : Sketch) : Bool :=
  match k.read Course.scanner.reading [⟨.top, tablesHead names⟩] with
  | some qs => qs.all fun q => q.ahead.isEmpty
  | none => false

/-- If all ways through a sketch define these tables, so does every text drawn after it. -/
theorem Sketch.Draws.definesTables {schemas : Schemas} {contracts : List String} {k : Sketch}
    {x : Fragment} (h : k.Draws schemas contracts x) (hp : schemas.Plain) {names : List String}
    (hk : k.tables names = true) : DefinesTables names x.render.toList := by
  rw [Sketch.tables] at hk
  split at hk
  · rename_i qs hqs
    obtain ⟨q, hq, hrun⟩ := h.scan hp hqs
    exact Course.prefix_of_run hrun (List.isEmpty_iff.mp (List.all_eq_true.mp hk q hq))
  · contradiction

end MarketQuery.Sql
