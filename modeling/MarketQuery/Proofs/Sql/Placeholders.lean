import MarketQuery.Sql.Fragment

namespace MarketQuery.Sql

/-- A stretch of text without dollar signs, or a dollar sign with all the digits behind it. -/
inductive Token where
  | text (cs : List Char)
  | placeholder (digits : List Char)
  deriving DecidableEq

namespace Token

def chars : Token → List Char
  | .text cs => cs
  | .placeholder ds => '$' :: ds

def cons (c : Char) : List Token → List Token
  | .text cs :: ts => .text (c :: cs) :: ts
  | ts => .text [c] :: ts

def scan : List Char → List Token
  | [] => []
  | c :: cs =>
    if c = '$' then .placeholder (cs.takeWhile Char.isDigit) :: scan (cs.dropWhile Char.isDigit)
    else cons c (scan cs)
termination_by cs => cs.length
decreasing_by
  · have := (List.dropWhile_suffix (l := cs) Char.isDigit).length_le
    simp only [List.length_cons]
    omega
  · simp

def number : List Char → Option Nat
  | [] => none
  | ds => some (Nat.ofDigitChars 10 ds 0)

def number? : Token → Option (Option Nat)
  | .text _ => none
  | .placeholder ds => some (number ds)

/-- The segment that a token stands for: text for itself, and a number for the value of its place.
-/
def segment (params : List Param) : Token → Option Segment
  | .text cs => some (.sql (String.ofList cs))
  | .placeholder ds =>
    match number ds with
    | some (i + 1) => params[i]?.map .param
    | _ => none

theorem chars_cons (c : Char) (ts : List Token) :
    (cons c ts).flatMap chars = c :: ts.flatMap chars := by
  unfold cons
  split <;> simp [chars]

/-- Cutting a text loses nothing of it. -/
theorem chars_scan (cs : List Char) : (scan cs).flatMap chars = cs := by
  induction cs using scan.induct with
  | case1 => simp [scan]
  | case2 cs ih => simp [scan, chars, ih, List.takeWhile_append_dropWhile]
  | case3 c cs hc ih => rw [scan, if_neg hc, chars_cons, ih]

end Token

/-- The numbers behind the dollar signs of a text, from left to right; nothing where a dollar sign
has no digits behind it. -/
def placeholders (text : String) : List (Option Nat) :=
  (Token.scan text.toList).filterMap Token.number?

/-- The segments of a text with the values that its placeholders number. There are none if a
placeholder numbers no value. -/
def fill (text : String) (params : List Param) : Option (List Segment) :=
  (Token.scan text.toList).mapM (Token.segment params)

def StartsWithDigit : List Atom → Prop
  | .char c :: _ => c.isDigit = true
  | _ => False

/-- No character is a dollar sign, and none behind a value is a digit. -/
def Guarded : List Atom → Prop
  | [] => True
  | .char c :: r => c ≠ '$' ∧ Guarded r
  | .param _ :: r => ¬ StartsWithDigit r ∧ Guarded r

theorem StartsWithDigit.append {xs ys : List Atom} (h : StartsWithDigit (xs ++ ys)) :
    StartsWithDigit xs ∨ StartsWithDigit ys := by
  cases xs with
  | nil => exact .inr h
  | cons x xs => exact .inl (by cases x <;> exact h)

/-- Guarded runs stay guarded one behind the other, unless the second begins with a digit. -/
theorem Guarded.append {xs ys : List Atom} (hx : Guarded xs) (hy : Guarded ys)
    (hd : ¬ StartsWithDigit ys) : Guarded (xs ++ ys) := by
  induction xs with
  | nil => exact hy
  | cons x xs ih =>
    cases x with
    | char c => exact ⟨hx.1, ih hx.2⟩
    | param p =>
      refine ⟨fun h => ?_, ih hx.2⟩
      rcases h.append with h | h
      · exact hx.1 h
      · exact hd h

/-- What is rendered behind the number of a value cannot be read as more of its digits. -/
theorem not_isDigit_of_mem_head {xs : List Atom} (h : ¬ StartsWithDigit xs) (n : Nat) :
    ∀ c ∈ (Fragment.renderAtoms n xs).head?, c.isDigit = false := by
  intro c hc
  cases xs with
  | nil => simp [Fragment.renderAtoms] at hc
  | cons x xs =>
    cases x with
    | char d =>
      have he : d = c := by simpa [Fragment.renderAtoms] using hc
      subst he
      simpa [StartsWithDigit] using h
    | param p =>
      have he : '$' = c := by simpa [Fragment.renderAtoms] using hc
      subst he
      rfl

/-- The digits of a number end where something else follows. -/
theorem takeWhile_digits {n : Nat} {r : List Char} (h : ∀ c ∈ r.head?, c.isDigit = false) :
    (Nat.toDigits 10 n ++ r).takeWhile Char.isDigit = Nat.toDigits 10 n ∧
      (Nat.toDigits 10 n ++ r).dropWhile Char.isDigit = r := by
  have hd : ∀ c ∈ Nat.toDigits 10 n, c.isDigit = true := fun c hc =>
    Nat.isDigit_of_mem_toDigits (by decide) (by decide) hc
  rw [List.takeWhile_append_of_pos hd, List.dropWhile_append_of_pos hd]
  cases r with
  | nil => simp
  | cons c r =>
    have hc := h c (by simp)
    simp [hc]

def numbered (n : Nat) : List (List Char ⊕ Param) → List Token
  | [] => []
  | .inl cs :: r => .text cs :: numbered n r
  | .inr _ :: r => .placeholder (Nat.toDigits 10 (n + 1)) :: numbered (n + 1) r

theorem numbered_runs_char (n : Nat) (c : Char) (xs : List Atom) :
    numbered n (Fragment.runs (.char c :: xs)) =
      Token.cons c (numbered n (Fragment.runs xs)) := by
  rw [Fragment.runs]
  rcases h : Fragment.runs xs with _ | ⟨cs | p, rest⟩ <;> simp [numbered, Token.cons]

/-- Scanning finds what was rendered: the runs of text as they are, and in place of the values the
numbers that follow `n`. -/
theorem scan_renderAtoms {xs : List Atom} (h : Guarded xs) (n : Nat) :
    Token.scan (Fragment.renderAtoms n xs) = numbered n (Fragment.runs xs) := by
  induction xs generalizing n with
  | nil => simp [Fragment.renderAtoms, Token.scan, Fragment.runs, numbered]
  | cons x xs ih =>
    cases x with
    | char c =>
      obtain ⟨hc, h⟩ := h
      rw [Fragment.renderAtoms, Token.scan, if_neg hc, ih h, numbered_runs_char]
    | param p =>
      obtain ⟨hd, h⟩ := h
      obtain ⟨ht, hr⟩ := takeWhile_digits (n := n + 1) (not_isDigit_of_mem_head hd (n + 1))
      rw [Fragment.renderAtoms, List.cons_append, Token.scan, if_pos rfl, ht, hr, ih h,
        Fragment.runs, numbered]

theorem number_toDigits (n : Nat) : Token.number (Nat.toDigits 10 n) = some n := by
  rw [Token.number, Nat.ofDigitChars_ten_toDigits]
  exact Nat.toDigits_ne_nil

theorem toDigits_append_inj {m n : Nat} {x y : List Char}
    (hx : ∀ c ∈ x.head?, c.isDigit = false) (hy : ∀ c ∈ y.head?, c.isDigit = false)
    (h : Nat.toDigits 10 m ++ x = Nat.toDigits 10 n ++ y) : m = n ∧ x = y := by
  obtain ⟨htm, hdm⟩ := takeWhile_digits (n := m) hx
  obtain ⟨htn, hdn⟩ := takeWhile_digits (n := n) hy
  rw [h, htn] at htm
  rw [h, hdn] at hdm
  have hnumber := congrArg Token.number htm
  rw [number_toDigits, number_toDigits] at hnumber
  exact ⟨(Option.some.inj hnumber).symm, hdm.symm⟩

/-- Two numbers can be read back if the text between them does not begin with a digit. -/
theorem numbers_inj {c : Char} {cs : List Char} (hc : c.isDigit = false) {k l m n : Nat}
    (h : toString k ++ String.ofList (c :: cs) ++ toString l =
      toString m ++ String.ofList (c :: cs) ++ toString n) : k = m ∧ l = n := by
  rw [← String.toList_inj] at h
  simp only [String.toList_append, String.toList_ofList, Nat.toString_eq_repr, Nat.toList_repr,
    List.append_assoc] at h
  obtain ⟨hk, h⟩ := toDigits_append_inj (by simp [hc]) (by simp [hc]) h
  have hl : Nat.toDigits 10 l ++ [] = Nat.toDigits 10 n ++ [] := by simpa using h
  exact ⟨hk, (toDigits_append_inj (by simp) (by simp) hl).1⟩

def Segment.ofRun : List Char ⊕ Param → Segment
  | .inl cs => .sql (String.ofList cs)
  | .inr p => .param p

theorem Fragment.segments_eq (f : Fragment) : f.segments = (runs f.atoms).map Segment.ofRun := by
  rw [segments]
  congr 1

theorem Fragment.params_runs (xs : List Atom) :
    (runs xs).filterMap Sum.getRight? = xs.filterMap Atom.param? := by
  induction xs with
  | nil => rfl
  | cons x xs ih =>
    cases x with
    | char c =>
      rw [runs]
      rcases h : runs xs with _ | ⟨cs | p, rest⟩ <;> rw [h] at ih <;>
        simpa only [List.filterMap_cons, Atom.param?, Sum.getRight?] using ih
    | param p => simp only [runs, List.filterMap_cons, Sum.getRight?, Atom.param?, ih]

/-- The numbers among the tokens of a run count its values, one after the other. -/
theorem number?_numbered (n : Nat) (rs : List (List Char ⊕ Param)) :
    (numbered n rs).filterMap Token.number? =
      (List.range' (n + 1) (rs.filterMap Sum.getRight?).length).map some := by
  induction rs generalizing n with
  | nil => rfl
  | cons r rs ih =>
    cases r with
    | inl cs =>
      simpa only [numbered, List.filterMap_cons, Token.number?, Sum.getRight?] using ih n
    | inr p =>
      simp only [numbered, List.filterMap_cons, Token.number?, number_toDigits, ih (n + 1),
        Sum.getRight?, List.length_cons, List.range'_succ, List.map_cons]

/-- Behind the first `n` values, each number stands for the next value. -/
theorem segment_numbered (before : List Param) (rs : List (List Char ⊕ Param)) :
    (numbered before.length rs).mapM (Token.segment (before ++ rs.filterMap Sum.getRight?)) =
      some (rs.map Segment.ofRun) := by
  induction rs generalizing before with
  | nil => rfl
  | cons r rs ih =>
    cases r with
    | inl cs =>
      have ih := ih before
      simp only [List.filterMap_cons, Sum.getRight?, numbered, List.mapM_cons] at ih ⊢
      rw [ih]
      rfl
    | inr p =>
      have ih := ih (before ++ [p])
      simp only [List.length_append, List.length_singleton, List.append_assoc,
        List.singleton_append] at ih
      simp only [List.filterMap_cons, Sum.getRight?, numbered, List.mapM_cons]
      rw [ih]
      simp [Token.segment, number_toDigits, Segment.ofRun]

namespace Fragment

/-- The placeholders of a text are the numbers of its values, each in its place. -/
theorem placeholders_render {f : Fragment} (h : Guarded f.atoms) :
    placeholders f.render = (List.range' 1 f.params.length).map some := by
  rw [placeholders, render, String.toList_ofList, scan_renderAtoms h, number?_numbered,
    params_runs, params]

/-- Text and values together hold all that the segments do. -/
theorem fill_render {f : Fragment} (h : Guarded f.atoms) :
    fill f.render f.params = some f.segments := by
  have hs := segment_numbered [] (runs f.atoms)
  rw [params_runs] at hs
  rw [fill, render, String.toList_ofList, scan_renderAtoms h, segments_eq]
  exact hs

end Fragment

def Segment.atoms : Segment → List Atom
  | .sql s => s.toList.map .char
  | .param p => [.param p]

namespace Fragment

/-- A fragment is got back from its segments. -/
theorem atoms_segments (f : Fragment) : f.segments.flatMap Segment.atoms = f.atoms := by
  rw [segments_eq]
  induction f.atoms with
  | nil => rfl
  | cons x xs ih =>
    cases x with
    | char c =>
      rw [runs]
      rcases h : runs xs with _ | ⟨cs | p, rest⟩ <;> rw [h] at ih <;>
        simp_all [Segment.ofRun, Segment.atoms]
    | param p => simpa [runs, Segment.ofRun, Segment.atoms] using ih

/-- Among guarded fragments, text and values determine the fragment. -/
theorem eq_of_render_eq {f g : Fragment} (hf : Guarded f.atoms) (hg : Guarded g.atoms)
    (hr : f.render = g.render) (hp : f.params = g.params) : f = g := by
  have hs : some f.segments = some g.segments := by
    rw [← fill_render hf, ← fill_render hg, hr, hp]
  have ha := congrArg (List.flatMap Segment.atoms) (Option.some.inj hs)
  rw [atoms_segments, atoms_segments] at ha
  exact Fragment.ext ha

end Fragment

end MarketQuery.Sql
