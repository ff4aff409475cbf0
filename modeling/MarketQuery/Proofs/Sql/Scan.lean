import MarketQuery.Proofs.Sql.Clean
import MarketQuery.Proofs.Sql.Replay
import MarketQuery.Proofs.Sql.Sketch
import Mathlib.Data.List.Lattice

namespace MarketQuery.Sql

/-- What schema names, numbers and placeholders are made of. -/
def isWordy (c : Char) : Bool := c.isAlphanum || c = '_' || c = '$'

/-- A reader of texts, from left to right, that may refuse a character. Where it takes a word that
is not known, it reads all characters of words alike, and one of them like several. -/
structure Scanner (σ : Type) where
  step : σ → Char → Option σ
  word : σ → Option σ
  step_wordy : ∀ {q s c}, word q = some s → isWordy c = true → step q c = some s
  word_again : ∀ {q s}, word q = some s → word s = some s

namespace Scanner

variable {σ : Type} (m : Scanner σ)

def run (q : σ) (cs : List Char) : Option σ := cs.foldlM m.step q

theorem run_append (q : σ) (cs ds : List Char) :
    m.run q (cs ++ ds) = (m.run q cs).bind (m.run · ds) :=
  List.foldlM_append ..

/-- A word of any length is read like one of its characters. -/
theorem run_word {q s : σ} {cs : List Char} (hcs : cs ≠ []) (hwordy : ∀ c ∈ cs, isWordy c = true)
    (hs : m.word q = some s) : m.run q cs = some s := by
  induction cs generalizing q with
  | nil => exact absurd rfl hcs
  | cons c cs ih =>
    rw [List.forall_mem_cons] at hwordy
    have hc : m.run q (c :: cs) = m.run s cs := by
      rw [run, List.foldlM_cons, m.step_wordy hs hwordy.1]
      rfl
    rw [hc]
    by_cases hnil : cs = []
    · subst hnil
      rfl
    · exact ih hnil hwordy.2 (m.word_again hs)

def reading [DecidableEq σ] : Reading (List σ) where
  text cs qs := qs.mapM (m.run · cs)
  name qs := qs.mapM m.word
  number qs := qs.mapM m.word
  value _ qs := qs.mapM m.word
  either qs ss := qs ∪ ss

def Reaches (start : σ) (qs : List σ) (xs : List Atom) : Prop :=
  ∃ q ∈ qs, m.run start (Fragment.renderAtoms 0 xs) = some q

variable {m} {start : σ} {qs ss : List σ} {xs : List Atom}

theorem exists_of_mapM {step : σ → Option σ} (h : qs.mapM step = some ss) {q : σ} (hq : q ∈ qs) :
    ∃ s ∈ ss, step q = some s := by
  induction qs generalizing ss with
  | nil => cases hq
  | cons p qs ih =>
    rw [List.mapM_cons] at h
    obtain ⟨t, ht, h⟩ := Option.bind_eq_some_iff.mp h
    obtain ⟨ts, hts, h⟩ := Option.bind_eq_some_iff.mp h
    cases h
    rcases List.mem_cons.mp hq with rfl | hq
    · exact ⟨t, List.mem_cons_self .., ht⟩
    · obtain ⟨s, hmem, hs⟩ := ih hts hq
      exact ⟨s, List.mem_cons_of_mem t hmem, hs⟩

/-- Each of the states may go on in its own way. -/
theorem Reaches.next {step : σ → Option σ} {ys : List Atom} (h : m.Reaches start qs xs)
    (hs : qs.mapM step = some ss)
    (hstep : ∀ q s n, step q = some s → m.run q (Fragment.renderAtoms n ys) = some s) :
    m.Reaches start ss (xs ++ ys) := by
  obtain ⟨q, hq, hrun⟩ := h
  obtain ⟨s, hmem, hstate⟩ := exists_of_mapM hs hq
  refine ⟨s, hmem, ?_⟩
  rw [Fragment.renderAtoms_append, run_append, hrun]
  exact hstep q s _ hstate

theorem isWordy_of_digits {n : Nat} : ∀ c ∈ Nat.toDigits 10 n, isWordy c = true := by
  intro c hc
  have hdigit := Nat.isDigit_of_mem_toDigits (by decide) (by decide) hc
  simp [isWordy, Char.isAlphanum, hdigit]

/-- Plain identifiers are words, and none of them is empty. -/
theorem isWordy_of_identifier {s : String} (h : isIdentifier s = true) :
    s.toList ≠ [] ∧ ∀ c ∈ s.toList, isWordy c = true := by
  rw [isIdentifier] at h
  cases hs : s.toList with
  | nil => simp [hs] at h
  | cons c cs =>
    simp only [hs, Bool.and_eq_true, Bool.or_eq_true, decide_eq_true_eq, List.all_eq_true] at h
    obtain ⟨hc, hcs⟩ := h
    refine ⟨List.cons_ne_nil c cs, List.forall_mem_cons.mpr ⟨?_, fun d hd => ?_⟩⟩
    · rcases hc with hc | rfl
      · simp [isWordy, Char.isAlphanum, hc]
      · rfl
    · rcases hcs d hd with hd | rfl
      · simp [isWordy, hd]
      · rfl

/-- What is not made of letters alone stands in no name. -/
theorem not_infix_of_plain {schemas : Schemas} (hp : schemas.Plain) (role : SchemaRole)
    {w : List Char} (hw : w.any (fun c => !isWordy c) = true) :
    ¬ w <:+: (schemas.name role).toList := by
  intro hin
  obtain ⟨c, hc, hwordy⟩ := List.any_eq_true.mp hw
  obtain ⟨-, hall⟩ := isWordy_of_identifier (hp role)
  rw [hall c (hin.subset hc)] at hwordy
  contradiction

/-- What a scanner finds in a sketch it finds in all texts drawn after it, if names are plain. -/
theorem reading_keeps [DecidableEq σ] {schemas : Schemas} {contracts : List String}
    (hp : schemas.Plain) : m.reading.Keeps schemas contracts (m.Reaches start) where
  text hs h := h.next hs fun q s n hq => by rwa [Fragment.renderAtoms_chars]
  name {role _ _ _} hs h := h.next hs fun q s n hq => by
    obtain ⟨hne, hwordy⟩ := isWordy_of_identifier (hp role)
    rw [Fragment.renderAtoms_chars]
    exact m.run_word hne hwordy hq
  number hs h := h.next hs fun q s n hq => by
    rw [Fragment.renderAtoms_chars]
    exact m.run_word Nat.toDigits_ne_nil isWordy_of_digits hq
  value hs _ h := h.next hs fun q s n hq => by
    refine m.run_word (List.cons_ne_nil _ _) (fun c hc => ?_) hq
    rw [Fragment.renderAtoms, Fragment.renderAtoms, List.append_nil] at hc
    rcases List.mem_cons.mp hc with rfl | hc
    · rfl
    · exact isWordy_of_digits c hc
  left h := h.imp fun _ hq => ⟨List.mem_union_iff.mpr (.inl hq.1), hq.2⟩
  right h := h.imp fun _ hq => ⟨List.mem_union_iff.mpr (.inr hq.1), hq.2⟩

end Scanner

/-- The text of what is drawn after a sketch gets through a scanner that the sketch gets through. -/
theorem Sketch.Draws.scan {σ : Type} [DecidableEq σ] {m : Scanner σ} {schemas : Schemas}
    {contracts : List String} {k : Sketch} {x : Fragment} (h : k.Draws schemas contracts x)
    (hp : schemas.Plain) {start : σ} {qs : List σ} (hk : k.read m.reading [start] = some qs) :
    ∃ q ∈ qs, m.run start x.render.toList = some q := by
  have hstart : m.Reaches start [start] [] := ⟨start, List.mem_singleton_self start, rfl⟩
  rw [Fragment.toList_render]
  exact h.read (Scanner.reading_keeps hp) hk hstart

end MarketQuery.Sql
