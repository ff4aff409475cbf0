import MarketQuery.Proofs.Sql.Segments
import MarketQuery.Proofs.Sql.Sketch
import Mathlib.Data.List.Lattice

namespace MarketQuery.Sql

def restsAfter (c : Char) (words : List (List Char)) : List (List Char) :=
  words.filterMap fun
    | [] => none
    | d :: ds => if d = c then some ds else none

def mayOpen (w : List Char) (c : Char) : Bool :=
  match w with
  | [] => true
  | d :: _ => d.toNat == c.toNat

/-- The rests of a word that would complete it after one more character, unless one of them is
complete already. Most characters of a text begin nothing and go on with nothing. -/
def awaited (w : List Char) (rests : List (List Char)) (c : Char) : Option (List (List Char)) :=
  match rests, mayOpen w c with
  | [], false => some []
  | _, _ =>
    let next := restsAfter c (w :: rests)
    if [] ∈ next then none else some next

theorem awaited_eq (w : List Char) (rests : List (List Char)) (c : Char) :
    awaited w rests c =
      if [] ∈ restsAfter c (w :: rests) then none else some (restsAfter c (w :: rests)) := by
  unfold awaited
  split
  · rename_i hopens
    cases w with
    | nil => contradiction
    | cons d ds =>
      have hne : d ≠ c := by
        rintro rfl
        simp [mayOpen] at hopens
      simp [restsAfter, hne]
  · rfl

def awaitedAll (w : List Char) (rests : List (List Char)) : List Char → Option (List (List Char))
  | [] => some rests
  | c :: cs =>
    match awaited w rests c with
    | some next => awaitedAll w next cs
    | none => none

def restsBehind (blocked : List Char → Bool) (w : List Char) : List (List Char) :=
  (List.range (w.length + 1)).filterMap fun i =>
    if blocked (w.take i) then none else some (w.drop i)

/-- Reads a sketch for a word that must not occur. Names may stand where what they would have to
hold is blocked. -/
def absence (w : List Char) (blocked : List Char → Bool) : Reading (List (List Char)) where
  text cs rests := awaitedAll w rests cs
  name rests :=
    if (w :: rests).all fun b => b.isEmpty || blocked b then
      some ((w :: rests).flatMap (restsBehind blocked))
    else none
  number _ := if w.any Char.isDigit then none else some []
  value _ _ := some []
  either rests others := rests ∪ others

/-- The word does not occur in the atoms that have been read, and all its rests that could follow
them are known. -/
structure Awaits (w : List Char) (rests : List (List Char)) (xs : List Atom) : Prop where
  absent : ¬ w.map .char <:+: xs
  known : ∀ a b, w = a ++ b → a ≠ [] → b ≠ [] → a.map .char <:+ xs → b ∈ rests

namespace Awaits

variable {w : List Char} {rests : List (List Char)} {xs : List Atom}

theorem nil (hw : w ≠ []) : Awaits w [] [] where
  absent h := hw (List.map_eq_nil_iff.mp (List.infix_nil.mp h))
  known _ _ _ ha _ hs := absurd (List.map_eq_nil_iff.mp (List.suffix_nil.mp hs)) ha

/-- A name that may hold the beginning of a word leaves the rest of it to be awaited. -/
theorem mem_restsBehind {blocked : List Char → Bool} {a b : List Char}
    (ha : blocked a = false) : b ∈ restsBehind blocked (a ++ b) := by
  refine List.mem_filterMap.mpr ⟨a.length, ?_, ?_⟩
  · rw [List.mem_range, List.length_append]
    omega
  · rw [List.take_left, List.drop_left, ha, if_neg Bool.false_ne_true]

/-- A rest of the word behind a beginning that may be empty. -/
theorem mem_of_suffix (h : Awaits w rests xs) {a b : List Char} (he : w = a ++ b) (hb : b ≠ [])
    (ha : a.map .char <:+ xs) : b ∈ w :: rests := by
  by_cases hne : a = []
  · subst hne
    exact he ▸ List.mem_cons_self ..
  · exact List.mem_cons_of_mem w (h.known a b he hne hb ha)

theorem suffix_concat {a : List Char} {c : Char} (ha : a ≠ [])
    (h : a.map Atom.char <:+ xs ++ [.char c]) : ∃ d, a = d ++ [c] ∧ d.map .char <:+ xs := by
  rcases List.suffix_concat_iff.mp h with h | ⟨t, ht, hs⟩
  · exact absurd (List.map_eq_nil_iff.mp h) ha
  · obtain ⟨d, e, rfl, rfl, he⟩ := List.map_eq_append_iff.mp ht
    have hc : e = [c] := List.map_injective_iff.mpr Atom.char_injective he
    exact ⟨d, by rw [hc], hs⟩

theorem mem_restsAfter {c : Char} {b : List Char} {words : List (List Char)}
    (h : c :: b ∈ words) : b ∈ restsAfter c words :=
  List.mem_filterMap.mpr ⟨c :: b, h, if_pos rfl⟩

/-- After one more character, the rests that go on behind it are awaited. -/
theorem char (h : Awaits w rests xs) {c : Char} {next : List (List Char)}
    (hs : awaited w rests c = some next) : Awaits w next (xs ++ [.char c]) := by
  rw [awaited_eq] at hs
  split at hs
  · contradiction
  · rename_i hopen
    cases hs
    refine ⟨fun hw => ?_, fun a b he ha hb hsuf => ?_⟩
    · rcases List.infix_concat_iff.mp hw with hw | hw
      · have hne : w ≠ [] := fun he => h.absent (he ▸ List.nil_infix)
        obtain ⟨d, hd, hs⟩ := suffix_concat hne hw
        exact hopen (mem_restsAfter (h.mem_of_suffix hd (List.cons_ne_nil c []) hs))
      · exact h.absent hw
    · obtain ⟨d, rfl, hs⟩ := suffix_concat ha hsuf
      exact mem_restsAfter (h.mem_of_suffix (by rw [he, List.append_assoc]; rfl)
        (List.cons_ne_nil c b) hs)

theorem chars {cs : List Char} {next : List (List Char)} (h : Awaits w rests xs)
    (hs : awaitedAll w rests cs = some next) : Awaits w next (xs ++ cs.map .char) := by
  induction cs generalizing rests xs with
  | nil =>
    cases hs
    simpa using h
  | cons c cs ih =>
    rw [awaitedAll] at hs
    split at hs
    · rename_i hc
      rw [List.map_cons, ← List.singleton_append, ← List.append_assoc]
      exact ih (h.char hc) hs
    · contradiction

/-- The word does not occur across a seam if nothing that was awaited occurs behind it. -/
theorem absent_append (h : Awaits w rests xs) {cs : List Char}
    (hcs : ∀ b ∈ w :: rests, b <:+ w → b ≠ [] → ¬ b <:+: cs) :
    ¬ w.map .char <:+: xs ++ cs.map .char := by
  intro hw
  have hne : w ≠ [] := fun he => h.absent (he ▸ List.nil_infix)
  -- A word across the seam has a beginning that was awaited, and its rest is in `cs`.
  rcases List.infix_append_iff.mp hw with hw | hw | ⟨l, r, hlr, hl, hr⟩
  · exact h.absent hw
  · exact hcs w (List.mem_cons_self ..) List.suffix_rfl hne (chars_infix_iff.mp hw)
  · obtain ⟨a, b, rfl, rfl, rfl⟩ := List.map_eq_append_iff.mp hlr
    by_cases hb : b = []
    · subst hb
      rw [List.append_nil] at h
      exact h.absent hl.isInfix
    · exact hcs b (h.mem_of_suffix rfl hb hl) (List.suffix_append a b) hb
        (chars_infix_iff.mp hr.isInfix)

/-- A beginning of a word that ends in `cs` is all in there, or was awaited before. -/
theorem suffix_append {a cs : List Char} (h : a.map Atom.char <:+ xs ++ cs.map .char) :
    a <:+ cs ∨ ∃ d, a = d ++ cs ∧ d.map .char <:+ xs := by
  obtain ⟨t, ht⟩ := h
  rcases List.append_eq_append_iff.mp ht with ⟨u, hx, ha⟩ | ⟨u, -, hc⟩
  · obtain ⟨d, e, rfl, rfl, he⟩ := List.map_eq_append_iff.mp ha
    have hcs : e = cs := List.map_injective_iff.mpr Atom.char_injective he
    exact .inr ⟨d, by rw [hcs], t, hx.symm⟩
  · obtain ⟨d, e, rfl, -, he⟩ := List.map_eq_append_iff.mp hc
    have ha : e = a := List.map_injective_iff.mpr Atom.char_injective he
    exact .inl ⟨d, by rw [ha]⟩

/-- Of a name, it is enough to know what does not occur in it. -/
theorem name (h : Awaits w rests xs) {cs : List Char} {blocked : List Char → Bool}
    (hblocked : ∀ b, blocked b = true → ¬ b <:+: cs)
    (hall : ∀ b ∈ w :: rests, b ≠ [] → blocked b = true) :
    Awaits w ((w :: rests).flatMap (restsBehind blocked)) (xs ++ cs.map .char) where
  absent := h.absent_append fun b hb _ hne => hblocked b (hall b hb hne)
  known a b he ha hb hsuf := by
    have hopen {d : List Char} (hd : d <:+: cs) : blocked d = false :=
      Bool.eq_false_iff.mpr fun hd' => hblocked d hd' hd
    rcases suffix_append hsuf with hin | ⟨d, rfl, hd⟩
    · refine List.mem_flatMap.mpr ⟨w, List.mem_cons_self .., ?_⟩
      exact he ▸ mem_restsBehind (hopen hin.isInfix)
    · have hrest : cs ++ b ∈ w :: rests :=
        h.mem_of_suffix (by rw [he, List.append_assoc]) (by simp [hb]) hd
      exact List.mem_flatMap.mpr ⟨_, hrest, mem_restsBehind (hopen List.infix_rfl)⟩

/-- Behind characters that the word does not have, nothing is awaited any more. -/
theorem foreign (h : Awaits w rests xs) {cs : List Char} (hne : cs ≠ []) (hcs : ∀ c ∈ cs, c ∉ w) :
    Awaits w [] (xs ++ cs.map .char) where
  absent := h.absent_append fun b _ hsuf hb hin => by
    obtain ⟨c, hc⟩ := List.exists_mem_of_ne_nil b hb
    exact hcs c (hin.subset hc) (hsuf.subset hc)
  known a b he ha _ hsuf := by
    have hmem : ∀ c ∈ a, c ∈ w := fun c hc => he ▸ List.mem_append_left b hc
    exfalso
    rcases suffix_append hsuf with hin | ⟨d, rfl, -⟩
    · obtain ⟨c, hc⟩ := List.exists_mem_of_ne_nil a ha
      exact hcs c (hin.subset hc) (hmem c hc)
    · obtain ⟨c, hc⟩ := List.exists_mem_of_ne_nil cs hne
      exact hcs c hc (hmem c (List.mem_append_right d hc))

/-- No word goes on across a value. -/
theorem param (h : Awaits w rests xs) {p : Param} : Awaits w [] (xs ++ [.param p]) := by
  have hnot {a : List Char} (ha : a ≠ []) : ¬ a.map Atom.char <:+ xs ++ [.param p] := by
    intro hs
    rcases List.suffix_concat_iff.mp hs with hs | ⟨t, ht, -⟩
    · exact ha (List.map_eq_nil_iff.mp hs)
    · exact param_notMem_chars (ht ▸ List.mem_append_right t (List.mem_singleton_self _))
  refine ⟨fun hw => ?_, fun a b _ ha _ hs => absurd hs (hnot ha)⟩
  rcases List.infix_concat_iff.mp hw with hw | hw
  · have hne : w ≠ [] := fun he => h.absent (he ▸ List.nil_infix)
    exact hnot hne hw
  · exact h.absent hw

theorem mono (h : Awaits w rests xs) {others : List (List Char)} (hs : rests ⊆ others) :
    Awaits w others xs where
  absent := h.absent
  known a b he ha hb hsuf := hs (h.known a b he ha hb hsuf)

end Awaits

variable {schemas : Schemas} {w : List Char} {blocked : List Char → Bool}

/-- Reading a sketch for a word keeps account of that word in all that is drawn after the sketch. -/
theorem absence_keeps {contracts : List String}
    (hnames : ∀ role b, blocked b = true → ¬ b <:+: (schemas.name role).toList) :
    (absence w blocked).Keeps schemas contracts (Awaits w) where
  text hs h := h.chars hs
  name {role q s xs} hs h := by
    dsimp only [absence] at hs
    split at hs
    · rename_i hall
      cases hs
      refine h.name (hnames role) fun b hb hne => ?_
      simpa [hne] using List.all_eq_true.mp hall b hb
    · contradiction
  number {n q s xs} hs h := by
    dsimp only [absence] at hs
    split at hs
    · contradiction
    · rename_i hdigits
      cases hs
      refine h.foreign Nat.toDigits_ne_nil fun c hc hin => hdigits ?_
      exact List.any_eq_true.mpr ⟨c, hin, Nat.isDigit_of_mem_toDigits (by decide) (by decide) hc⟩
  value hs _ h := by
    cases hs
    exact h.param
  left h := h.mono fun _ hb => List.mem_union_iff.mpr (.inl hb)
  right h := h.mono fun _ hb => List.mem_union_iff.mpr (.inr hb)

/-- A word does not occur in what is drawn after a sketch that can be read without it. -/
theorem Sketch.Draws.absent {contracts : List String} {k : Sketch} {x : Fragment}
    (h : k.Draws schemas contracts x) (hw : w ≠ [])
    (hk : (k.read (absence w blocked) []).isSome = true)
    (hnames : ∀ role b, blocked b = true → ¬ b <:+: (schemas.name role).toList) :
    ¬ w.map .char <:+: x.atoms := by
  obtain ⟨rests, hrests⟩ := Option.isSome_iff_exists.mp hk
  exact (h.read (absence_keeps hnames) hrests (.nil hw)).absent

/-- Neither a dollar sign nor a digit, which is what numbers of values are rendered with. -/
def isWordChar (c : Char) : Bool := c ≠ '$' && !c.isDigit

namespace Fragment

/-- A word without dollar signs and digits is rendered from characters alone. -/
theorem chars_of_renderAtoms {n : Nat} {xs : List Atom} (hw : w.all isWordChar = true)
    (h : w <+: renderAtoms n xs) : w.map .char <+: xs := by
  induction w generalizing n xs with
  | nil => exact List.nil_prefix
  | cons c w ih =>
    rw [List.all_cons, Bool.and_eq_true_iff] at hw
    cases xs with
    | nil => exact absurd (List.prefix_nil.mp h) (List.cons_ne_nil c w)
    | cons x xs =>
      cases x with
      | char d =>
        obtain ⟨rfl, hrest⟩ := List.cons_prefix_cons.mp h
        exact List.cons_prefix_cons.mpr ⟨rfl, ih hw.2 hrest⟩
      | param p =>
        obtain ⟨rfl, -⟩ := List.cons_prefix_cons.mp h
        exact absurd hw.1 (by decide)

theorem infix_of_skip {skip cs : List Char} (hw : w.all isWordChar = true)
    (hskip : ∀ c ∈ skip, isWordChar c = false) (h : w <:+: skip ++ cs) : w <:+: cs := by
  induction skip with
  | nil => exact h
  | cons d skip ih =>
    rcases List.infix_cons_iff.mp h with h | h
    · cases w with
      | nil => exact List.nil_infix
      | cons c w =>
        obtain ⟨rfl, -⟩ := List.cons_prefix_cons.mp h
        rw [List.all_cons, hskip c (List.mem_cons_self ..)] at hw
        contradiction
    · exact ih (fun c hc => hskip c (List.mem_cons_of_mem d hc)) h

/-- A word without dollar signs and digits stands in the text only where it stands in the fragment.
-/
theorem infix_of_renderAtoms {n : Nat} {xs : List Atom} (hw : w.all isWordChar = true)
    (h : w <:+: renderAtoms n xs) : w.map .char <:+: xs := by
  induction xs generalizing n with
  | nil =>
    rw [List.infix_nil.mp h]
    exact List.nil_infix
  | cons x xs ih =>
    cases x with
    | char c =>
      rw [renderAtoms] at h
      rcases List.infix_cons_iff.mp h with h | h
      · have hx : w <+: renderAtoms n (.char c :: xs) := h
        exact (chars_of_renderAtoms hw hx).isInfix
      · exact (ih h).trans (List.suffix_cons _ _).isInfix
    | param p =>
      have hnumber : ∀ c ∈ '$' :: Nat.toDigits 10 (n + 1), isWordChar c = false := by
        intro c hc
        rcases List.mem_cons.mp hc with rfl | hc
        · rfl
        · rw [isWordChar, Nat.isDigit_of_mem_toDigits (by decide) (by decide) hc]
          exact Bool.and_false _
      exact (ih (infix_of_skip hw hnumber h)).trans (List.suffix_cons _ _).isInfix

end Fragment

end MarketQuery.Sql
