import MarketQuery.Sql.Fragment

namespace MarketQuery.Sql

def Distinct (v w : List Char) : Prop := ¬ v <+: w ∧ ¬ w <+: v

instance (v w : List Char) : Decidable (Distinct v w) := inferInstanceAs (Decidable (_ ∧ _))

namespace Fragment

theorem append_assoc (f g h : Fragment) : f ++ g ++ h = f ++ (g ++ h) := by
  apply Fragment.ext
  simp

theorem empty_append (f : Fragment) : empty ++ f = f := rfl

theorem append_empty (f : Fragment) : f ++ empty = f := by
  apply Fragment.ext
  simp

theorem concat_nil : concat [] = empty := rfl

theorem concat_cons (f : Fragment) (fs : List Fragment) : concat (f :: fs) = f ++ concat fs := by
  apply Fragment.ext
  simp

theorem concat_append (fs gs : List Fragment) : concat (fs ++ gs) = concat fs ++ concat gs := by
  apply Fragment.ext
  simp

/-- A common beginning can be dropped. -/
theorem append_right_inj (f : Fragment) {x y : Fragment} : f ++ x = f ++ y ↔ x = y := by
  refine ⟨fun h => ?_, fun h => congrArg (f ++ ·) h⟩
  apply Fragment.ext
  have ha := congrArg atoms h
  simpa using ha

theorem bind_append_inj {p q : Param} {x y : Fragment} :
    bind p ++ x = bind q ++ y ↔ p = q ∧ x = y := by
  refine ⟨fun h => ?_, fun ⟨hp, hx⟩ => by rw [hp, hx]⟩
  have ha := congrArg atoms h
  simp only [atoms_append, atoms_bind, List.cons_append, List.nil_append, List.cons.injEq,
    Atom.param.injEq] at ha
  exact ⟨ha.1, Fragment.ext ha.2⟩

theorem bind_inj {p q : Param} : bind p = bind q ↔ p = q := by
  refine ⟨fun h => ?_, congrArg bind⟩
  have ha := congrArg atoms h
  simpa using ha

theorem text_inj {s t : String} : text s = text t ↔ s = t := by
  refine ⟨fun h => ?_, congrArg text⟩
  have ha : s.toList.map Atom.char = t.toList.map Atom.char := congrArg atoms h
  exact String.toList_inj.mp ((List.map_inj_right fun _ _ => Atom.char.inj).mp ha)

def Opens (w : List Char) (f : Fragment) : Prop := w.map Atom.char <+: f.atoms

theorem opens_text (w : List Char) : Opens w (text (String.ofList w)) :=
  ⟨[], by simp⟩

theorem opens_toList (s : String) : Opens s.toList (text s) := List.prefix_rfl

/-- Words are given as characters. Those of a literal are found by unification. -/
theorem opens_literal (v w : List Char) : Opens v (text (String.ofList (v ++ w))) :=
  ⟨w.map Atom.char, by simp⟩

theorem Opens.append {w : List Char} {f : Fragment} (h : Opens w f) (g : Fragment) :
    Opens w (f ++ g) :=
  List.IsPrefix.trans h (List.prefix_append _ _)

/-- Of two words that a fragment begins with, one is the beginning of the other. -/
theorem Opens.ne {v w : List Char} {f g : Fragment} (hf : Opens v f) (hg : Opens w g)
    (h : Distinct v w) : f ≠ g := by
  rintro rfl
  obtain ⟨hvw, hwv⟩ := h
  rcases Nat.le_total v.length w.length with hl | hl
  · have hp := List.prefix_of_prefix_length_le hf hg (by simpa only [List.length_map] using hl)
    exact hvw ((List.prefix_map_iff_of_injective fun _ _ => Atom.char.inj).mp hp)
  · have hp := List.prefix_of_prefix_length_le hg hf (by simpa only [List.length_map] using hl)
    exact hwv ((List.prefix_map_iff_of_injective fun _ _ => Atom.char.inj).mp hp)

/-- Fragments that begin with distinct words are not equal, whatever follows. -/
theorem literal_ne {v w : List Char} (h : Distinct v w) (x y : Fragment) :
    text (String.ofList v) ++ x ≠ text (String.ofList w) ++ y :=
  ((opens_text v).append x).ne ((opens_text w).append y) h

/-- A value is no text. -/
theorem bind_ne_literal (p : Param) (c : Char) (cs : List Char) (x y : Fragment) :
    bind p ++ x ≠ text (String.ofList (c :: cs)) ++ y := by
  intro h
  have ha := congrArg atoms h
  simp at ha

/-- A part that may be missing is there on both sides, or on neither, if it cannot be taken for what
follows it. -/
theorem ite_append_inj {b c : Bool} {f x y : Fragment} (hx : ∀ z, f ++ z ≠ x) (hy : ∀ z, f ++ z ≠ y)
    (h : (if b then f else empty) ++ x = (if c then f else empty) ++ y) : b = c ∧ x = y := by
  cases b <;> cases c
  · exact ⟨rfl, h⟩
  · exact absurd h.symm (hx y)
  · exact absurd h (hy x)
  · exact ⟨rfl, (append_right_inj f).mp h⟩

/-- Nothing more, or a new line. -/
def EndsLine (f : Fragment) : Prop := ∀ a ∈ f.atoms.head?, a = .char '\n'

theorem chars_append_inj {cs ds : List Char} {xs ys : List Atom} (hc : '\n' ∉ cs) (hd : '\n' ∉ ds)
    (hx : ∀ a ∈ xs.head?, a = .char '\n') (hy : ∀ a ∈ ys.head?, a = .char '\n')
    (h : cs.map Atom.char ++ xs = ds.map Atom.char ++ ys) : cs = ds ∧ xs = ys := by
  induction cs generalizing ds with
  | nil =>
    cases ds with
    | nil => exact ⟨rfl, h⟩
    | cons d ds =>
      have he : Atom.char d = .char '\n' := hx _ (by rw [show xs = _ from h]; rfl)
      exact absurd (Atom.char.inj he ▸ List.mem_cons_self) hd
  | cons c cs ih =>
    cases ds with
    | nil =>
      have he : Atom.char c = .char '\n' := hy _ (by rw [← show _ = ys from h]; rfl)
      exact absurd (Atom.char.inj he ▸ List.mem_cons_self) hc
    | cons d ds =>
      simp only [List.map_cons, List.cons_append, List.cons.injEq, Atom.char.injEq] at h
      obtain ⟨rfl, h⟩ := h
      rw [List.mem_cons, not_or] at hc hd
      obtain ⟨rfl, hxy⟩ := ih hc.2 hd.2 h
      exact ⟨rfl, hxy⟩

/-- The text of a line ends where the line does. -/
theorem line_inj {s t : String} {x y : Fragment} (hs : '\n' ∉ s.toList) (ht : '\n' ∉ t.toList)
    (hx : EndsLine x) (hy : EndsLine y) (h : text s ++ x = text t ++ y) : s = t ∧ x = y := by
  obtain ⟨hl, ha⟩ := chars_append_inj hs ht hx hy (congrArg atoms h)
  exact ⟨String.toList_inj.mp hl, Fragment.ext ha⟩

end Fragment

end MarketQuery.Sql
