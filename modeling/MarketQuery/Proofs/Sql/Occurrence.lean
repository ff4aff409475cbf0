import MarketQuery.Proofs.Sql.Absent
import MarketQuery.Proofs.Sql.Prefix
import MarketQuery.Proofs.Sql.Replay

namespace MarketQuery.Sql

def OccursOnce (w cs : List Char) : Prop := ∃! x, x ++ w <+: cs

def definition (n : List Char) : List Char := n ++ " AS (".toList

/-- The name is given to one table. It is mentioned nowhere before that, and behind it something is
taken from the table. -/
structure DefinedOnce (n cs : List Char) : Prop where
  once : OccursOnce (definition n) cs
  first : ∀ x y, x ++ definition n <+: cs → y ++ n <+: cs → x <+: y
  used : ∃ x y, x ++ definition n <+: y ∧
    (y ++ ("FROM ".toList ++ n) <+: cs ∨ y ++ ("JOIN ".toList ++ n) <+: cs)

section Words

variable {w l r x : List Char}

/-- A word begins behind a stretch of text if it does not occur where it would have to begin. -/
theorem prefix_of_absent {α : Type} {w l r x : List α} (h : ¬ w <:+: l ++ w.dropLast)
    (hx : x ++ w <+: l ++ (w ++ r)) : l <+: x := by
  rcases Nat.lt_or_ge x.length l.length with hlt | hge
  · have hbegin : l ++ w.dropLast <+: l ++ (w ++ r) :=
      List.prefix_append_right_inj l |>.mpr
        ((List.dropLast_prefix w).trans (List.prefix_append w r))
    have hlength : (x ++ w).length ≤ (l ++ w.dropLast).length := by
      simp only [List.length_append, List.length_dropLast]
      omega
    have hin := List.prefix_of_prefix_length_le hx hbegin hlength
    exact absurd ((List.suffix_append x w).isInfix.trans hin.isInfix) h
  · exact List.prefix_of_prefix_length_le (List.prefix_append l _)
      ((List.prefix_append x w).trans hx) hge

/-- A word that does not begin again in what follows stands where it has been put. -/
theorem eq_of_absent (h : ¬ w <:+: w.tail ++ r) (hl : l <+: x) (hx : x ++ w <+: l ++ (w ++ r)) :
    x = l := by
  obtain ⟨d, rfl⟩ := hl
  cases d with
  | nil => exact List.append_nil l
  | cons c d =>
    rw [List.append_assoc, List.prefix_append_right_inj] at hx
    cases w with
    | nil => exact absurd List.nil_infix h
    | cons e w =>
      obtain ⟨-, hx⟩ := List.cons_prefix_cons.mp hx
      exact absurd ((List.suffix_append d (e :: w)).isInfix.trans hx.isInfix) h

/-- A word that begins neither before its place nor behind it occurs once. -/
theorem occursOnce_of_absent (hl : ¬ w <:+: l ++ w.dropLast) (hr : ¬ w <:+: w.tail ++ r) :
    OccursOnce w (l ++ (w ++ r)) := by
  refine ⟨l, ?_, fun x hx => eq_of_absent hr (prefix_of_absent hl hx) hx⟩
  exact List.prefix_append_right_inj l |>.mpr (List.prefix_append w r)

/-- A table that is not mentioned before its definition, and is used behind it, is defined once. -/
theorem definedOnce_of_absent {n : List Char}
    (h : OccursOnce (definition n) (l ++ (definition n ++ r)))
    (hfirst : ¬ n <:+: l ++ n.dropLast)
    (hused : "FROM ".toList ++ n <:+: r ∨ "JOIN ".toList ++ n <:+: r) :
    DefinedOnce n (l ++ (definition n ++ r)) := by
  have hplace : l ++ definition n <+: l ++ (definition n ++ r) :=
    List.prefix_append_right_inj l |>.mpr (List.prefix_append _ r)
  refine ⟨h, fun x y hx hy => ?_, ?_⟩
  · rw [h.unique hx hplace]
    rw [definition, List.append_assoc] at hy
    exact prefix_of_absent hfirst hy
  · have hbehind {v : List Char} (hv : v <:+: r) :
        ∃ y, l ++ definition n <+: y ∧ y ++ v <+: l ++ (definition n ++ r) := by
      obtain ⟨s, t, rfl⟩ := hv
      refine ⟨l ++ definition n ++ s, List.prefix_append _ s, t, ?_⟩
      simp only [List.append_assoc]
    rcases hused with hused | hused
    · obtain ⟨y, hl, hy⟩ := hbehind hused
      exact ⟨l, y, hl, .inl hy⟩
    · obtain ⟨y, hl, hy⟩ := hbehind hused
      exact ⟨l, y, hl, .inr hy⟩

def cut (w : List Char) : List Char → Option (List Char × List Char)
  | [] => none
  | c :: cs =>
    match mayOpen w c, w.isPrefixOf? (c :: cs) with
    | true, some r => some ([], r)
    | _, _ => (cut w cs).map fun p => (c :: p.1, p.2)

theorem eq_of_cut {cs : List Char} (h : cut w cs = some (l, r)) : cs = l ++ (w ++ r) := by
  induction cs generalizing l with
  | nil => cases h
  | cons c cs ih =>
    rw [cut] at h
    split at h
    · rename_i hr
      cases h
      exact (List.isPrefixOf?_eq_some_iff_append_eq.mp hr).symm
    · obtain ⟨⟨d, s⟩, hd, he⟩ := Option.map_eq_some_iff.mp h
      cases he
      rw [ih hd, List.cons_append]

end Words

namespace Fragment

theorem renderAtoms_append_text (m : Nat) (x : Fragment) (v : List Char) :
    renderAtoms m (x ++ text (String.ofList v)).atoms = renderAtoms m x.atoms ++ v := by
  rw [atoms_append, renderAtoms_append, atoms_text, String.toList_ofList, renderAtoms_chars]

theorem renderAtoms_text_append (m : Nat) (v : List Char) (x : Fragment) :
    renderAtoms m (text (String.ofList v) ++ x).atoms = v ++ renderAtoms m x.atoms := by
  rw [atoms_append, renderAtoms_append, atoms_text, String.toList_ofList, renderAtoms_chars,
    Atom.filterMap_param?_chars]
  rfl

/-- Text stands in what is rendered as it is. -/
theorem infix_renderAtoms_text (m : Nat) (x : Fragment) (s : String) (y : Fragment) :
    s.toList <:+: renderAtoms m (x ++ (text s ++ y)).atoms := by
  rw [atoms_append, renderAtoms_append, ← String.ofList_toList (s := s), renderAtoms_text_append,
    String.toList_ofList]
  exact ⟨_, _, List.append_assoc ..⟩

end Fragment

namespace Sketch

/-- The parts of a sketch before and behind a place where a word is sure to stand. -/
def split (w : List Char) : Sketch → Option (Sketch × Sketch)
  | .text cs => (cut w cs).map fun p => (.text p.1, .text p.2)
  | .append a b =>
    match a.split w with
    | some p => some (p.1, .append p.2 b)
    | none => (b.split w).map fun p => (.append a p.1, p.2)
  | _ => none

def holds (w : List Char) : Sketch → Bool
  | .text cs => (cut w cs).isSome
  | .append a b => a.holds w || b.holds w
  | .either a b => a.holds w && b.holds w
  | _ => false

def lacks (w : List Char) (blocked : List Char → Bool) (k : Sketch) : Bool :=
  !w.isEmpty && w.all isWordChar && (k.read (absence w blocked) []).isSome

def hasOnce (w : List Char) (blocked : List Char → Bool) (k : Sketch) : Bool :=
  match k.split w with
  | some (a, b) =>
    (append a (.text w.dropLast)).lacks w blocked && (append (.text w.tail) b).lacks w blocked
  | none => false

def definesOnce (n : List Char) (blocked : List Char → Bool) (k : Sketch) : Bool :=
  k.hasOnce (definition n) blocked &&
    match k.split (definition n) with
    | some (a, b) =>
      (append a (.text n.dropLast)).lacks n blocked &&
        (b.holds ("FROM ".toList ++ n) || b.holds ("JOIN ".toList ++ n))
    | none => false

namespace Draws

variable {schemas : Schemas} {contracts : List String} {k a b : Sketch} {x : Fragment}
  {w n : List Char}

/-- A fragment is split where its sketch is. -/
theorem split (h : k.Draws schemas contracts x) (hk : k.split w = some (a, b)) :
    ∃ y z, a.Draws schemas contracts y ∧ b.Draws schemas contracts z ∧
      x = y ++ (.text (String.ofList w) ++ z) := by
  induction h generalizing a b with
  | @literal cs =>
    obtain ⟨⟨l, r⟩, hcut, he⟩ := Option.map_eq_some_iff.mp hk
    cases he
    refine ⟨_, _, .literal, .literal, ?_⟩
    rw [eq_of_cut hcut, String.ofList_append, String.ofList_append, Fragment.text_append,
      Fragment.text_append]
  | @append k₁ k₂ x₁ x₂ h₁ h₂ ih₁ ih₂ =>
    rw [Sketch.split] at hk
    split at hk
    · rename_i p hp
      cases hk
      obtain ⟨y, z, hy, hz, rfl⟩ := ih₁ hp
      exact ⟨y, z ++ x₂, hy, .append hz h₂, by simp only [Fragment.append_assoc]⟩
    · obtain ⟨p, hp, he⟩ := Option.map_eq_some_iff.mp hk
      cases he
      obtain ⟨y, z, hy, hz, rfl⟩ := ih₂ hp
      exact ⟨x₁ ++ y, z, .append h₁ hy, hz, by simp only [Fragment.append_assoc]⟩
  | _ => cases hk

/-- Where a sketch is split, so is the text. -/
theorem split_render (h : k.Draws schemas contracts x) (hk : k.split w = some (a, b)) (m : Nat) :
    ∃ y z m', a.Draws schemas contracts y ∧ b.Draws schemas contracts z ∧
      Fragment.renderAtoms m x.atoms =
        Fragment.renderAtoms m y.atoms ++ (w ++ Fragment.renderAtoms m' z.atoms) := by
  obtain ⟨y, z, hy, hz, rfl⟩ := h.split hk
  rw [Fragment.atoms_append, Fragment.renderAtoms_append, Fragment.renderAtoms_text_append]
  exact ⟨y, z, _, hy, hz, rfl⟩

/-- A word that a sketch is sure to hold stands in every text drawn after it. -/
theorem infix_of_holds (h : k.Draws schemas contracts x) (hk : k.holds w = true) (m : Nat) :
    w <:+: Fragment.renderAtoms m x.atoms := by
  induction h generalizing m with
  | @literal cs =>
    obtain ⟨⟨l, r⟩, hcut⟩ := Option.isSome_iff_exists.mp hk
    rw [Fragment.atoms_text, String.toList_ofList, Fragment.renderAtoms_chars, eq_of_cut hcut]
    exact ⟨l, r, List.append_assoc l w r⟩
  | append _ _ ih₁ ih₂ =>
    rw [Fragment.atoms_append, Fragment.renderAtoms_append]
    rcases Bool.or_eq_true_iff.mp hk with hk | hk
    · exact (ih₁ hk m).trans (List.prefix_append ..).isInfix
    · exact (ih₂ hk _).trans (List.suffix_append ..).isInfix
  | left _ ih => exact ih (Bool.and_eq_true_iff.mp hk).1 m
  | right _ ih => exact ih (Bool.and_eq_true_iff.mp hk).2 m
  | _ => cases hk

variable {blocked : List Char → Bool}
  (hnames : ∀ role b, blocked b = true → ¬ b <:+: (schemas.name role).toList)

include hnames

/-- A word that a sketch lacks stands in no text drawn after it, if names do not hold what is
blocked. -/
theorem not_infix_of_lacks (h : k.Draws schemas contracts x) (hk : k.lacks w blocked = true)
    (m : Nat) : ¬ w <:+: Fragment.renderAtoms m x.atoms := by
  rw [lacks, Bool.and_eq_true_iff, Bool.and_eq_true_iff, Bool.not_eq_true',
    List.isEmpty_eq_false_iff] at hk
  obtain ⟨⟨hne, hchars⟩, hread⟩ := hk
  exact fun hin => h.absent hne hread hnames (Fragment.infix_of_renderAtoms hchars hin)

variable {v : List Char}

theorem not_infix_before (h : a.Draws schemas contracts x)
    (hk : (Sketch.append a (.text v)).lacks w blocked = true) (m : Nat) :
    ¬ w <:+: Fragment.renderAtoms m x.atoms ++ v := by
  have hv : (Sketch.text v).Draws schemas contracts (.text (String.ofList v)) := .literal
  rw [← Fragment.renderAtoms_append_text]
  exact (append h hv).not_infix_of_lacks hnames hk m

theorem not_infix_behind (h : b.Draws schemas contracts x)
    (hk : (Sketch.append (.text v) b).lacks w blocked = true) (m : Nat) :
    ¬ w <:+: v ++ Fragment.renderAtoms m x.atoms := by
  have hv : (Sketch.text v).Draws schemas contracts (.text (String.ofList v)) := .literal
  rw [← Fragment.renderAtoms_text_append]
  exact (append hv h).not_infix_of_lacks hnames hk m

theorem occursOnce (h : k.Draws schemas contracts x) (hk : k.hasOnce w blocked = true) (m : Nat) :
    OccursOnce w (Fragment.renderAtoms m x.atoms) := by
  rw [hasOnce] at hk
  split at hk
  · rename_i a b hab
    obtain ⟨hbefore, hbehind⟩ := Bool.and_eq_true_iff.mp hk
    obtain ⟨y, z, m', hy, hz, he⟩ := h.split_render hab m
    rw [he]
    exact occursOnce_of_absent (hy.not_infix_before hnames hbefore m)
      (hz.not_infix_behind hnames hbehind m')
  · contradiction

/-- A table that a sketch defines once is defined once in every text drawn after it. -/
theorem definedOnce (h : k.Draws schemas contracts x) (hk : k.definesOnce n blocked = true)
    (m : Nat) : DefinedOnce n (Fragment.renderAtoms m x.atoms) := by
  obtain ⟨honce, hk⟩ := Bool.and_eq_true_iff.mp hk
  have honce := h.occursOnce hnames honce m
  split at hk
  · rename_i a b hab
    obtain ⟨hfirst, hused⟩ := Bool.and_eq_true_iff.mp hk
    obtain ⟨y, z, m', hy, hz, he⟩ := h.split_render hab m
    rw [he] at honce ⊢
    exact definedOnce_of_absent honce (hy.not_infix_before hnames hfirst m)
      ((Bool.or_eq_true_iff.mp hused).imp (hz.infix_of_holds · m') (hz.infix_of_holds · m'))
  · contradiction

end Draws

end Sketch

end MarketQuery.Sql
