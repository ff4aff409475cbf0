import MarketQuery.Proofs.Sql.Placeholders
import Mathlib.Data.List.Infix

namespace MarketQuery.Sql

theorem Atom.char_injective : Function.Injective Atom.char := by
  intro c d h
  cases h
  rfl

theorem param_notMem_chars {p : Param} {cs : List Char} : .param p ∉ cs.map Atom.char := by
  simp

theorem chars_suffix_iff {cs ds : List Char} :
    cs.map Atom.char <:+ ds.map Atom.char ↔ cs <:+ ds := by
  rw [← List.reverse_prefix, ← List.map_reverse, ← List.map_reverse,
    List.prefix_map_iff_of_injective Atom.char_injective, List.reverse_prefix]

theorem chars_infix_iff {cs ds : List Char} :
    cs.map Atom.char <:+: ds.map Atom.char ↔ cs <:+: ds := by
  refine ⟨fun ⟨u, v, h⟩ => ?_, fun h => h.map Atom.char⟩
  obtain ⟨l, b, rfl, hl, -⟩ := List.map_eq_append_iff.mp h.symm
  obtain ⟨a, c, rfl, -, hc⟩ := List.map_eq_append_iff.mp hl
  rw [List.map_injective_iff.mpr Atom.char_injective hc]
  exact ⟨a, b, rfl⟩

namespace Fragment

theorem runs_chars {c : Char} {cs : List Char} :
    runs ((c :: cs).map Atom.char) = [.inl (c :: cs)] := by
  induction cs generalizing c with
  | nil => rfl
  | cons d cs ih => rw [List.map_cons, runs, ih]

/-- A value parts the runs before it from those behind. -/
theorem runs_param {xs ys : List Atom} {p : Param} :
    runs (xs ++ .param p :: ys) = runs xs ++ .inr p :: runs ys := by
  induction xs with
  | nil => rfl
  | cons x xs ih =>
    cases x with
    | param q => rw [List.cons_append, runs, ih, runs, List.cons_append]
    | char c =>
      rw [List.cons_append, runs, ih, runs]
      rcases runs xs with _ | ⟨cs | q, rest⟩ <;> rfl

theorem runs_split {zs : List Atom} {l r : List (List Char ⊕ Param)} {p : Param}
    (h : runs zs = l ++ .inr p :: r) :
    ∃ xs ys, zs = xs ++ .param p :: ys ∧ runs xs = l ∧ runs ys = r := by
  induction zs generalizing l with
  | nil => simp [runs] at h
  | cons z zs ih =>
    cases z with
    | param q =>
      rw [runs] at h
      cases l with
      | nil =>
        simp only [List.nil_append, List.cons.injEq, Sum.inr.injEq] at h
        obtain ⟨rfl, rfl⟩ := h
        exact ⟨[], zs, rfl, rfl, rfl⟩
      | cons x l =>
        rw [List.cons_append, List.cons.injEq] at h
        obtain ⟨rfl, h⟩ := h
        obtain ⟨xs, ys, rfl, rfl, hys⟩ := ih h
        exact ⟨.param q :: xs, ys, rfl, rfl, hys⟩
    | char c =>
      rw [runs] at h
      rcases hruns : runs zs with _ | ⟨cs | q, rest⟩
      · simp [hruns, List.cons_eq_append_iff] at h
      · simp only [hruns] at h
        cases l with
        | nil => simp at h
        | cons x l =>
          rw [List.cons_append, List.cons.injEq] at h
          obtain ⟨rfl, rfl⟩ := h
          obtain ⟨xs, ys, rfl, hxs, hys⟩ := ih (l := .inl cs :: l) hruns
          exact ⟨.char c :: xs, ys, rfl, by rw [runs, hxs], hys⟩
      · simp only [hruns] at h
        cases l with
        | nil => simp at h
        | cons x l =>
          rw [List.cons_append, List.cons.injEq] at h
          obtain ⟨rfl, h⟩ := h
          obtain ⟨xs, ys, rfl, hxs, hys⟩ := ih (hruns.trans h)
          refine ⟨.char c :: xs, ys, rfl, ?_, hys⟩
          rw [runs, hxs]
          cases l with
          | nil => rfl
          | cons y l =>
            rw [List.cons_append, List.cons.injEq] at h
            rw [← h.1]

/-- A word that ends a run of atoms is the end of its last stretch of text. -/
theorem suffix_runs {w : List Char} {xs : List Atom} (hw : w ≠ [])
    (h : w.map Atom.char <:+ xs) : ∃ l cs, runs xs = l ++ [.inl cs] ∧ w <:+ cs := by
  induction xs with
  | nil => exact absurd (List.map_eq_nil_iff.mp (List.suffix_nil.mp h)) hw
  | cons x xs ih =>
    rcases List.suffix_cons_iff.mp h with he | h
    · obtain ⟨c, cs, rfl⟩ := List.exists_cons_of_ne_nil hw
      exact ⟨[], c :: cs, by rw [← he, runs_chars, List.nil_append], List.suffix_rfl⟩
    · obtain ⟨l, cs, hruns, hcs⟩ := ih h
      cases x with
      | param q => exact ⟨.inr q :: l, cs, by rw [runs, hruns, List.cons_append], hcs⟩
      | char c =>
        rcases l with _ | ⟨ds | q, l⟩
        · exact ⟨[], c :: cs, by rw [runs, hruns]; rfl, hcs.trans (List.suffix_cons c cs)⟩
        · exact ⟨.inl (c :: ds) :: l, cs, by rw [runs, hruns]; rfl, hcs⟩
        · exact ⟨.inl [c] :: .inr q :: l, cs, by rw [runs, hruns]; rfl, hcs⟩

theorem segments_bind (x y : Fragment) (p : Param) :
    (x ++ (bind p ++ y)).segments = x.segments ++ .param p :: y.segments := by
  have hatoms : (x ++ (bind p ++ y)).atoms = x.atoms ++ .param p :: y.atoms := rfl
  rw [segments_eq, segments_eq, segments_eq, hatoms, runs_param, List.map_append, List.map_cons]
  rfl

/-- A value among the segments stands between two fragments that have the other segments. -/
theorem segments_split {f : Fragment} {l r : List Segment} {p : Param}
    (h : f.segments = l ++ .param p :: r) :
    ∃ x y : Fragment, f = x ++ (bind p ++ y) ∧ x.segments = l ∧ y.segments = r := by
  rw [segments_eq, List.map_eq_append_iff] at h
  obtain ⟨k, m, hruns, rfl, hm⟩ := h
  obtain ⟨q, m, rfl, hq, rfl⟩ := List.map_eq_cons_iff.mp hm
  cases q with
  | inl cs => cases hq
  | inr q =>
    cases hq
    obtain ⟨xs, ys, hf, hxs, hys⟩ := runs_split hruns
    refine ⟨⟨xs⟩, ⟨ys⟩, Fragment.ext hf, ?_, ?_⟩
    · rw [segments_eq, hxs]
    · rw [segments_eq, hys]

end Fragment

/-- The text that stands right before what follows these segments. -/
def Segment.textBefore (l : List Segment) : String :=
  match l.getLast? with
  | some (.sql s) => s
  | _ => ""

def Segment.textBehind (r : List Segment) : String :=
  match r.head? with
  | some (.sql s) => s
  | _ => ""

namespace Fragment

/-- What a fragment ends in can be told from the text of its last segment. -/
theorem suffix_textBefore_iff {x : Fragment} {w : List Char} (hw : w ≠ []) :
    w <:+ (Segment.textBefore x.segments).toList ↔ w.map Atom.char <:+ x.atoms := by
  constructor
  · intro h
    rw [Segment.textBefore] at h
    split at h
    · rename_i s hs
      obtain ⟨l, hl⟩ := List.getLast?_eq_some_iff.mp hs
      rw [← atoms_segments x, hl, List.flatMap_append, List.flatMap_singleton, Segment.atoms]
      exact (List.IsSuffix.map Atom.char h).trans (List.suffix_append _ _)
    · exact absurd (List.suffix_nil.mp h) hw
  · intro h
    obtain ⟨l, cs, hruns, hcs⟩ := suffix_runs hw h
    have hlast : x.segments.getLast? = some (.sql (String.ofList cs)) := by
      rw [segments_eq, hruns, List.map_append, List.map_singleton, List.getLast?_concat]
      rfl
    rw [Segment.textBefore, hlast, String.toList_ofList]
    exact hcs

theorem prefix_of_textBehind {y : Fragment} {w : List Char} (hw : w ≠ [])
    (h : w <+: (Segment.textBehind y.segments).toList) : w.map Atom.char <+: y.atoms := by
  rw [Segment.textBehind] at h
  split at h
  · rename_i s hs
    obtain ⟨r, hr⟩ := List.head?_eq_some_iff.mp hs
    rw [← atoms_segments y, hr, List.flatMap_cons, Segment.atoms]
    exact (List.IsPrefix.map Atom.char h).trans (List.prefix_append _ _)
  · exact absurd (List.prefix_nil.mp h) hw

end Fragment

end MarketQuery.Sql
