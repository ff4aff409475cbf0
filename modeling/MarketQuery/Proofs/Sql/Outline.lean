import MarketQuery.Sql.Fragment

namespace MarketQuery.Sql

/-- A character as it is, and nothing where a value is bound. -/
def Atom.outline : Atom → Option Char
  | .char c => some c
  | .param _ => none

namespace Fragment

def outline (f : Fragment) : List (Option Char) := f.atoms.map Atom.outline

@[simp] theorem outline_empty : empty.outline = [] := rfl

@[simp] theorem outline_bind (p : Param) : (bind p).outline = [none] := rfl

@[simp] theorem outline_append (f g : Fragment) : (f ++ g).outline = f.outline ++ g.outline := by
  simp [outline]

@[simp] theorem outline_concat (fs : List Fragment) :
    (concat fs).outline = (fs.map outline).flatten := by
  induction fs with
  | nil => rfl
  | cons f fs ih =>
    simp only [outline, atoms_concat, List.flatMap_cons, List.map_append] at ih ⊢
    rw [ih]
    rfl

/-- Joining looks at how many parts there are, and not at the values in them. -/
theorem outline_join (separator : String) {fs gs : List Fragment}
    (h : fs.map outline = gs.map outline) :
    (join separator fs).map outline = (join separator gs).map outline := by
  cases fs with
  | nil =>
    have hg : gs = [] := by simpa using h.symm
    rw [hg]
  | cons f fs =>
    cases gs with
    | nil => simp at h
    | cons g gs =>
      simp only [List.map_cons, List.cons.injEq] at h
      obtain ⟨hf, hfs⟩ := h
      have hsep : (fs.map (text separator ++ ·)).map outline =
          (gs.map (text separator ++ ·)).map outline := by
        have := congrArg (List.map ((text separator).outline ++ ·)) hfs
        simpa [Function.comp_def] using this
      simp [join, hf, hsep]

/-- Parameters are numbered by where they stand, whatever they are. -/
theorem renderAtoms_eq_of_outline {xs ys : List Atom}
    (h : xs.map Atom.outline = ys.map Atom.outline) (n : Nat) :
    renderAtoms n xs = renderAtoms n ys := by
  induction xs generalizing ys n with
  | nil =>
    have hy : ys = [] := by simpa using h.symm
    rw [hy]
  | cons x xs ih =>
    cases ys with
    | nil => simp at h
    | cons y ys =>
      simp only [List.map_cons, List.cons.injEq] at h
      obtain ⟨hxy, h⟩ := h
      cases x <;> cases y <;> simp only [Atom.outline, reduceCtorEq, Option.some.injEq] at hxy
      · subst hxy
        simp [renderAtoms, ih h]
      · simp [renderAtoms, ih h]

/-- The text tells no more of a fragment than its outline does. -/
theorem render_eq_of_outline {f g : Fragment} (h : f.outline = g.outline) :
    f.render = g.render := by
  rw [render, render, renderAtoms_eq_of_outline h]

end Fragment

end MarketQuery.Sql
