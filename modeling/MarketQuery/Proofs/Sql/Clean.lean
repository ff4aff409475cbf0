import MarketQuery.Config
import MarketQuery.Proofs.Sql.Placeholders
import MarketQuery.Sql.Template

namespace MarketQuery

/-- All schema names can be written into the text as they are. -/
def Schemas.Plain (s : Schemas) : Prop := ∀ role, isIdentifier (s.name role) = true

namespace Sql

def isClean (cs : List Char) : Bool := cs.all (· ≠ '$') && !cs.head?.any Char.isDigit

theorem isAlphanum_ne_dollar {c : Char} (h : c.isAlphanum = true ∨ c = '_') : c ≠ '$' := by
  rintro rfl
  revert h
  decide

theorem not_isDigit_of_isAlpha {c : Char} (h : c.isAlpha = true) : c.isDigit = false := by
  apply Bool.eq_false_iff.mpr
  intro hd
  obtain ⟨-, hnine⟩ := Char.isDigit_iff_toNat.mp hd
  rcases (Bool.or_eq_true _ _).mp h with h | h
  · obtain ⟨hupper, -⟩ := of_decide_eq_true h
    have hletter : 'A'.toNat ≤ c.toNat := UInt32.le_iff_toNat_le.mp hupper
    exact absurd (Nat.le_trans hletter hnine) (by decide)
  · obtain ⟨hlower, -⟩ := (Bool.and_eq_true _ _).mp h
    have hletter : 'a'.toNat ≤ c.toNat := UInt32.le_iff_toNat_le.mp (of_decide_eq_true hlower)
    exact absurd (Nat.le_trans hletter hnine) (by decide)

/-- A plain identifier can stand behind a value. -/
theorem isClean_identifier {s : String} (h : isIdentifier s = true) :
    isClean s.toList = true := by
  rw [isIdentifier] at h
  cases hs : s.toList with
  | nil => simp [hs] at h
  | cons c cs =>
    simp only [hs, Bool.and_eq_true, Bool.or_eq_true, decide_eq_true_eq, List.all_eq_true] at h
    obtain ⟨hc, hcs⟩ := h
    have hdigit : c.isDigit = false := by
      rcases hc with hc | rfl
      · exact not_isDigit_of_isAlpha hc
      · rfl
    have hword : c.isAlphanum = true ∨ c = '_' := hc.imp_left fun h => by
      simp [Char.isAlphanum, h]
    have hdollar : ∀ d ∈ c :: cs, d ≠ '$' := by
      intro d hd
      rcases List.mem_cons.mp hd with rfl | hd
      · exact isAlphanum_ne_dollar hword
      · exact isAlphanum_ne_dollar (hcs d hd)
    simp only [isClean, Bool.and_eq_true, List.all_eq_true, decide_eq_true_eq]
    exact ⟨hdollar, by simp [hdigit]⟩

/-- Values can be told from text, and the fragment can stand behind a value. -/
structure Fragment.Clean (f : Fragment) : Prop where
  guarded : Guarded f.atoms
  start : ¬ StartsWithDigit f.atoms

namespace Fragment.Clean

theorem empty : Clean .empty := ⟨trivial, id⟩

theorem bind (p : Param) : Clean (.bind p) := ⟨⟨id, trivial⟩, id⟩

theorem append {f g : Fragment} (hf : Clean f) (hg : Clean g) : Clean (f ++ g) :=
  ⟨hf.guarded.append hg.guarded hg.start, fun h => h.append.elim hf.start hg.start⟩

theorem concat {fs : List Fragment} (h : ∀ f ∈ fs, Clean f) : Clean (.concat fs) := by
  induction fs with
  | nil => exact empty
  | cons f fs ih =>
    rw [List.forall_mem_cons] at h
    exact append h.1 (ih h.2)

theorem text {s : String} (h : isClean s.toList = true) : Clean (.text s) := by
  simp only [isClean, Bool.and_eq_true, List.all_eq_true, Bool.not_eq_true'] at h
  obtain ⟨hdollar, hdigit⟩ := h
  refine ⟨?_, ?_⟩
  · rw [atoms_text]
    generalize s.toList = cs at hdollar
    induction cs with
    | nil => trivial
    | cons c cs ih =>
      rw [List.forall_mem_cons] at hdollar
      exact ⟨by simpa using hdollar.1, ih hdollar.2⟩
  · intro hd
    rw [atoms_text] at hd
    cases hcs : s.toList with
    | nil => simp [hcs, StartsWithDigit] at hd
    | cons c cs =>
      rw [hcs] at hd hdigit
      have hc : c.isDigit = true := hd
      simp [hc] at hdigit

/-- For literals: unification finds their characters, so that none has to be decoded. -/
theorem literal {cs : List Char} (h : isClean cs = true) :
    Clean (.text (String.ofList cs)) :=
  text (by rwa [String.toList_ofList])

theorem behind {cs : List Char} {f : Fragment} (h : isClean cs = true) (hf : Clean f) :
    Clean (.text (String.ofList cs) ++ f) :=
  append (literal h) hf

theorem value {before after : List Char} (p : Param) (hb : isClean before = true)
    (ha : isClean after = true) :
    Clean (.text (String.ofList before) ++ .bind p ++ .text (String.ofList after)) :=
  append (behind hb (bind p)) (literal ha)

theorem text_append {s t : String} (hs : Clean (.text s)) (ht : Clean (.text t)) :
    Clean (.text (s ++ t)) := by
  rw [Fragment.text_append]
  exact append hs ht

/-- Numbers behind text do no harm. -/
theorem page {c : Char} {cs ds : List Char} {l o : Nat} (hc : isClean (c :: cs) = true)
    (hd : ds.all (· ≠ '$') = true) :
    Clean (.text (String.ofList (c :: cs) ++ toString l ++ String.ofList ds ++ toString o)) := by
  apply text
  have hdigits : ∀ n : Nat, (Nat.toDigits 10 n).all (· ≠ '$') = true := by
    intro n
    rw [List.all_eq_true]
    intro c hn
    have hdigit := Nat.isDigit_of_mem_toDigits (by decide) (by decide) hn
    have hword : c ≠ '$' := isAlphanum_ne_dollar (.inl (by simp [Char.isAlphanum, hdigit]))
    simpa using hword
  simp only [String.toList_append, String.toList_ofList, Nat.toString_eq_repr, Nat.toList_repr]
  simp only [isClean, Bool.and_eq_true, List.all_append, hd, hdigits, and_true] at hc ⊢
  exact hc

theorem join {separator : String} {fs : List Fragment} {f : Fragment}
    (hs : Clean (.text separator)) (h : ∀ f ∈ fs, Clean f)
    (hj : Fragment.join separator fs = some f) : Clean f := by
  cases fs with
  | nil => simp [Fragment.join] at hj
  | cons g gs =>
    rw [List.forall_mem_cons] at h
    simp only [Fragment.join, Option.some.injEq] at hj
    subst hj
    refine append h.1 (concat fun x hx => ?_)
    obtain ⟨y, hy, rfl⟩ := List.mem_map.mp hx
    exact append hs (h.2 y hy)

theorem name {schemas : Schemas} (h : schemas.Plain) (role : SchemaRole) :
    Clean (.text (schemas.name role)) :=
  text (isClean_identifier (h role))

theorem fill {schemas : Schemas} {t : Template} (h : ∀ p ∈ t, Clean (p.fill schemas)) :
    Clean (t.fill schemas) := by
  refine concat fun f hf => ?_
  obtain ⟨p, hp, rfl⟩ := List.mem_map.mp hf
  exact h p hp

end Fragment.Clean

end Sql

end MarketQuery
