import MarketQuery.Proofs.Sql.Scan

namespace MarketQuery.Sql

/-- The characters outside of literals in single quotes, read from outside of one or inside. -/
def outside (literal : Bool) : List Char → List Char
  | [] => []
  | c :: cs =>
    if c = '\'' then outside (!literal) cs
    else if literal then outside literal cs
    else c :: outside literal cs

/-- One statement and no more, without comments and escapes. Quotes of both kinds pair up, each
outside of the other; outside of literals, parentheses are balanced. -/
structure LexicallySafe (cs : List Char) : Prop where
  noSemicolon : ';' ∉ cs
  noBackslash : '\\' ∉ cs
  noLineComment : ¬ ['-', '-'] <:+: cs
  noBlockComment : ¬ ['/', '*'] <:+: cs
  singleQuotes : cs.count '\'' % 2 = 0
  doubleQuotes : cs.count '"' % 2 = 0
  apart : (outside false cs).count '"' = cs.count '"'
  /-- No beginning of the text closes more than it opens. -/
  neverBelow : ∀ p, p <+: cs → (outside false p).count ')' ≤ (outside false p).count '('
  closed : (outside false cs).count ')' = (outside false cs).count '('

structure Nesting where
  /-- Inside a literal in single quotes. -/
  literal : Bool
  /-- How many parentheses are open. -/
  depth : Nat
  deriving DecidableEq

namespace Nesting

def top : Nesting := ⟨false, 0⟩

def next (n : Nesting) (c : Char) : Nesting where
  literal := if c = '\'' then !n.literal else n.literal
  depth :=
    if n.literal then n.depth
    else if c = '(' then n.depth + 1
    else if c = ')' then n.depth - 1
    else n.depth

/-- Goes on with what a nesting is, and not with what it is computed from. -/
def force (n : Nesting) (k : Nesting → α) : α :=
  match n.literal, n.depth with
  | true, 0 => k ⟨true, 0⟩
  | true, d + 1 => k ⟨true, d + 1⟩
  | false, 0 => k ⟨false, 0⟩
  | false, d + 1 => k ⟨false, d + 1⟩

theorem force_eq (n : Nesting) (k : Nesting → α) : n.force k = k n := by
  obtain ⟨_ | _, _ | d⟩ := n <;> rfl

end Nesting

structure Lexis extends Nesting where
  /-- Inside a name in double quotes. -/
  quoted : Bool
  /-- The character right before, if a comment could begin with it. -/
  last : Option Char
  deriving DecidableEq

namespace Lexis

def start : Lexis := ⟨.top, false, none⟩

def refuses (q : Lexis) (c : Char) : Bool :=
  c = ';' || c = '\\' || (q.last = some '-' && c = '-') || (q.last = some '/' && c = '*') ||
    (q.quoted && c = '\'') || (q.literal && c = '"') || (q.depth = 0 && !q.literal && c = ')')

def next (q : Lexis) (c : Char) : Lexis where
  toNesting := q.toNesting.next c
  quoted := if c = '"' then !q.quoted else q.quoted
  last := if c = '-' || c = '/' then some c else none

def marks : List Char := [';', '\\', '-', '/', '*', '\'', '"', '(', ')']

def isPlain (c : Char) : Bool := c.toNat = 32 || (64 < c.toNat && c.toNat ≠ 92)

def pass (q : Lexis) : Lexis := { q with last := none }

/-- The state is evaluated after each character, so that long texts can be read by evaluation. -/
def step (q : Lexis) (c : Char) : Option Lexis :=
  match isPlain c, q.last with
  | true, none => some q
  | true, some _ => some q.pass
  | false, _ =>
    if q.refuses c then none
    else
      (q.toNesting.next c).force fun n =>
      match (q.next c).quoted with
      | true => some ⟨n, true, (q.next c).last⟩
      | false => some ⟨n, false, (q.next c).last⟩

/-- A character that is no mark is let through, and leaves what any character of a word would. -/
theorem unmarked (q : Lexis) {c : Char} (h : ∀ d ∈ marks, c ≠ d) :
    q.refuses c = false ∧ q.next c = q.pass := by
  simp only [marks, List.forall_mem_cons] at h
  obtain ⟨hsemicolon, hbackslash, hdash, hslash, hstar, hsingle, hdouble, hopen, hclose, -⟩ := h
  exact ⟨by simp [refuses, *], by simp [next, Nesting.next, pass, *]⟩

/-- A test that fails for all marks holds of none. -/
theorem ne_mark {p : Char → Bool} (hmarks : marks.any p = false) {c : Char} (hc : p c = true) :
    ∀ d ∈ marks, c ≠ d := by
  rintro d hd rfl
  exact List.any_eq_false.mp hmarks c hd hc

theorem step_eq (q : Lexis) (c : Char) :
    q.step c = if q.refuses c then none else some (q.next c) := by
  cases hc : isPlain c with
  | true =>
    obtain ⟨hrefuses, hnext⟩ := q.unmarked (ne_mark (p := isPlain) (by decide) hc)
    rw [hrefuses, hnext, step, hc]
    obtain ⟨nesting, quoted, _ | _⟩ := q <;> rfl
  | false =>
    simp only [step, hc, Nesting.force_eq]
    split
    · rfl
    · rw [next]
      cases (if c = '"' then !q.quoted else q.quoted) <;> rfl

/-- Characters of words are all read alike, so it does not matter which word it is. -/
theorem step_wordy (q : Lexis) {c : Char} (h : isWordy c = true) : q.step c = some q.pass := by
  obtain ⟨hrefuses, hnext⟩ := q.unmarked (ne_mark (by decide) h)
  rw [step_eq, hrefuses, hnext]
  rfl

def scanner : Scanner Lexis where
  step := step
  word q := some q.pass
  step_wordy {q s c} hs hc := by
    rw [← hs]
    exact q.step_wordy hc
  word_again h := by
    cases h
    rfl

def isOdd (d : Char) (cs : List Char) : Bool := cs.count d % 2 == 1

theorem isOdd_append (d : Char) (cs ds : List Char) :
    isOdd d (cs ++ ds) = (isOdd d cs ^^ isOdd d ds) := by
  rw [isOdd, isOdd, isOdd, List.count_append, Nat.add_mod]
  rcases Nat.mod_two_eq_zero_or_one (cs.count d) with h | h <;>
    rcases Nat.mod_two_eq_zero_or_one (ds.count d) with h' | h' <;> rw [h, h'] <;> rfl

theorem isOdd_singleton (d c : Char) : isOdd d [c] = decide (c = d) := by
  by_cases h : c = d <;> simp [isOdd, h]

/-- A text ends inside of a literal if its single quotes do not pair up. -/
theorem outside_append (literal : Bool) (cs ds : List Char) :
    outside literal (cs ++ ds) =
      outside literal cs ++ outside (literal ^^ isOdd '\'' cs) ds := by
  induction cs generalizing literal with
  | nil => simp [outside, isOdd]
  | cons c cs ih =>
    have hodd : isOdd '\'' (c :: cs) = (decide (c = '\'') ^^ isOdd '\'' cs) := by
      rw [← List.singleton_append, isOdd_append, isOdd_singleton]
    rw [List.cons_append, outside, outside, hodd]
    by_cases hc : c = '\''
    · simp only [hc, if_true, ih, decide_true]
      cases literal <;> simp
    · cases literal <;> simp [hc, ih]

theorem outside_singleton (literal : Bool) (c : Char) :
    outside literal [c] = if c = '\'' || literal then [] else [c] := by
  by_cases hc : c = '\'' <;> cases literal <;> simp [outside, hc]

structure Knows (q : Lexis) (cs : List Char) : Prop where
  noSemicolon : ';' ∉ cs
  noBackslash : '\\' ∉ cs
  noLineComment : ¬ ['-', '-'] <:+: cs
  noBlockComment : ¬ ['/', '*'] <:+: cs
  literal : q.literal = isOdd '\'' cs
  quoted : q.quoted = isOdd '"' cs
  apart : (outside false cs).count '"' = cs.count '"'
  depth : q.depth + (outside false cs).count ')' = (outside false cs).count '('
  last : ∀ c, c = '-' ∨ c = '/' → cs.getLast? = some c → q.last = some c

theorem Knows.start : Knows start [] where
  noSemicolon := List.not_mem_nil
  noBackslash := List.not_mem_nil
  noLineComment h := by simp at h
  noBlockComment h := by simp at h
  literal := rfl
  quoted := rfl
  apart := rfl
  depth := rfl
  last _ _ h := by simp at h

/-- A comment begins where its second character is read behind its first. -/
theorem not_infix_concat {q : Lexis} {cs : List Char} {a b c : Char} (h : ¬ [a, b] <:+: cs)
    (hlast : cs.getLast? = some a → q.last = some a) (hc : ¬ (q.last = some a ∧ c = b)) :
    ¬ [a, b] <:+: cs ++ [c] := by
  rw [List.infix_concat_iff]
  rintro (hs | hs)
  · obtain ⟨ds, hds⟩ := hs
    have hends : ds ++ [a] ++ [b] = cs ++ [c] := by simpa using hds
    obtain ⟨rfl, he⟩ := List.append_inj' hends rfl
    exact hc ⟨hlast (by simp), (List.singleton_inj.mp he).symm⟩
  · exact h hs

/-- The depth follows the parentheses outside of literals. -/
theorem depth_next {q : Lexis} {c : Char} {closed opened : Nat} (h : q.depth + closed = opened)
    (hclose : ¬ ((q.depth = 0 ∧ q.literal = false) ∧ c = ')')) :
    (q.next c).depth + (closed + (if c = '\'' || q.literal then [] else [c]).count ')') =
      opened + (if c = '\'' || q.literal then [] else [c]).count '(' := by
  rw [next, Nesting.next]
  cases hl : q.literal with
  | true => simpa using h
  | false =>
    by_cases hopens : c = '('
    · subst hopens
      simp
      omega
    · by_cases hcloses : c = ')'
      · subst hcloses
        have hpos : q.depth ≠ 0 := fun hz => hclose ⟨⟨hz, hl⟩, rfl⟩
        simp
        omega
      · by_cases hquote : c = '\'' <;> simp [hopens, hcloses, hquote, h]

theorem Knows.step {q s : Lexis} {cs : List Char} {c : Char} (h : Knows q cs)
    (hs : q.step c = some s) : Knows s (cs ++ [c]) := by
  rw [step_eq] at hs
  split at hs
  · contradiction
  · rename_i hrefuses
    cases hs
    simp only [refuses, Bool.or_eq_true, Bool.and_eq_true, decide_eq_true_eq, not_or,
      Bool.not_eq_true'] at hrefuses
    obtain ⟨⟨⟨⟨⟨⟨hsemicolon, hbackslash⟩, hdash⟩, hstar⟩, hsingle⟩, hdouble⟩, hclose⟩ := hrefuses
    have hliteral : (false ^^ isOdd '\'' cs) = q.literal := by rw [Bool.false_xor, h.literal]
    have houtside : outside false (cs ++ [c]) =
        outside false cs ++ if c = '\'' || q.literal then [] else [c] := by
      rw [outside_append, hliteral, outside_singleton]
    refine ⟨?_, ?_, ?_, ?_, ?_, ?_, ?_, ?_, ?_⟩
    · simpa [h.noSemicolon] using Ne.symm hsemicolon
    · simpa [h.noBackslash] using Ne.symm hbackslash
    · exact not_infix_concat h.noLineComment (h.last '-' (.inl rfl)) hdash
    · exact not_infix_concat h.noBlockComment (h.last '/' (.inr rfl)) hstar
    · rw [isOdd_append, isOdd_singleton, ← h.literal, next, Nesting.next]
      by_cases hc : c = '\'' <;> simp [hc]
    · rw [isOdd_append, isOdd_singleton, ← h.quoted, next]
      by_cases hc : c = '"' <;> simp [hc]
    · rw [houtside, List.count_append, List.count_append, h.apart]
      by_cases hc : c = '"'
      · have hl : q.literal = false := Bool.not_eq_true _ ▸ fun hl => hdouble ⟨hl, hc⟩
        simp [hc, hl]
      · cases q.literal <;> by_cases hq : c = '\'' <;> simp [hc, hq]
    · rw [houtside, List.count_append, List.count_append]
      exact depth_next h.depth hclose
    · intro d hd hlast
      rw [List.getLast?_concat, Option.some.injEq] at hlast
      subst hlast
      rcases hd with rfl | rfl <;> rfl

theorem Knows.run {q s : Lexis} {cs ds : List Char} (h : Knows q cs)
    (hs : scanner.run q ds = some s) : Knows s (cs ++ ds) := by
  induction ds generalizing q cs with
  | nil =>
    cases hs
    rwa [List.append_nil]
  | cons d ds ih =>
    rw [Scanner.run, List.foldlM_cons] at hs
    obtain ⟨t, ht, hs⟩ := Option.bind_eq_some_iff.mp hs
    rw [← List.singleton_append, ← List.append_assoc]
    exact ih (h.step ht) hs

end Lexis

/-- A text is safe if the scanner gets through it and is left with nothing open. -/
theorem LexicallySafe.of_run {q : Lexis} {cs : List Char}
    (h : Lexis.scanner.run .start cs = some q) (hl : q.literal = false) (hq : q.quoted = false)
    (hd : q.depth = 0) : LexicallySafe cs := by
  have hk : q.Knows cs := Lexis.Knows.start.run h
  have heven {d : Char} (he : false = Lexis.isOdd d cs) : cs.count d % 2 = 0 := by
    rw [Lexis.isOdd, eq_comm, beq_eq_false_iff_ne] at he
    omega
  refine ⟨hk.noSemicolon, hk.noBackslash, hk.noLineComment, hk.noBlockComment,
    heven (hl ▸ hk.literal), heven (hq ▸ hk.quoted), hk.apart, fun p hp => ?_, ?_⟩
  · obtain ⟨r, rfl⟩ := hp
    rw [Scanner.run_append] at h
    obtain ⟨t, ht, -⟩ := Option.bind_eq_some_iff.mp h
    have hdepth := (Lexis.Knows.start.run ht).depth
    rw [List.nil_append] at hdepth
    omega
  · have hdepth := hk.depth
    omega

end MarketQuery.Sql
