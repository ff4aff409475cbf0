import MarketQuery.Text.Normal
import Mathlib.Data.List.DropRight

namespace MarketQuery.Text

theorem trimChars_eq_nil_iff {cs : List Char} : trimChars cs = [] ↔ cs.all isSpace = true := by
  have hrest : trimChars cs = [] ↔ ∀ c ∈ cs.dropWhile isSpace, isSpace c = true :=
    List.rdropWhile_eq_nil_iff
  rw [hrest, List.all_eq_true]
  constructor
  · intro h c hc
    rw [← List.takeWhile_append_dropWhile (p := isSpace) (l := cs)] at hc
    rcases List.mem_append.mp hc with hc | hc
    · exact List.mem_takeWhile_imp hc
    · exact h c hc
  · intro h c hc
    exact h c ((List.dropWhile_sublist isSpace).subset hc)

/-- A text is blank exactly when trimming leaves nothing of it. -/
theorem isBlank_iff_trim_eq_empty {s : String} : isBlank s = true ↔ trim s = "" := by
  rw [isBlank, ← trimChars_eq_nil_iff, trim, ← String.ofList_nil, String.ofList_inj]

theorem trimChars_prefix (cs : List Char) : trimChars cs <+: cs.dropWhile isSpace :=
  List.rdropWhile_prefix isSpace (cs.dropWhile isSpace)

theorem dropWhile_trimChars (cs : List Char) :
    (trimChars cs).dropWhile isSpace = trimChars cs := by
  cases h : trimChars cs with
  | nil => rfl
  | cons c r =>
    obtain ⟨t, ht⟩ := trimChars_prefix cs
    have hc := List.head?_dropWhile_not isSpace cs
    rw [← ht, h] at hc
    exact List.dropWhile_cons_of_neg (by simpa using hc)

/-- Nothing is left to trim of a text that has been trimmed. -/
theorem trim_trim (s : String) : trim (trim s) = trim s := by
  rw [trim, trim, String.toList_ofList]
  congr 1
  rw [trimChars, dropWhile_trimChars]
  exact List.rdropWhile_idempotent isSpace (s.toList.dropWhile isSpace)

theorem trim_eq_self {s : String} (h : ∀ c ∈ s.toList, isSpace c = false) : trim s = s := by
  have hall : ∀ cs : List Char, (∀ c ∈ cs, isSpace c = false) → cs.dropWhile isSpace = cs := by
    intro cs hcs
    cases cs with
    | nil => rfl
    | cons c cs => exact List.dropWhile_cons_of_neg (by simp [hcs c (List.mem_cons_self ..)])
  rw [trim, trimChars, hall _ h, hall, List.reverse_reverse, String.ofList_toList]
  exact fun c hc => h c (List.mem_reverse.mp hc)

/-- To know something of all characters of ASCII, it is enough to look at each. -/
theorem forall_ascii {p : Char → Prop} (h : ∀ n < 128, p (Char.ofNat n)) {c : Char}
    (hc : c.toNat < 128) : p c :=
  Char.ofNat_toNat c ▸ h c.toNat hc

/-- On ASCII the full mapping is the simple one. -/
theorem lowerChar_ascii {c : Char} (h : c.toNat < 128) : lowerChar c = [c.toLower] :=
  forall_ascii (p := fun c => lowerChar c = [c.toLower]) (by decide +kernel) h

/-- Besides the run of capital letters only the Kelvin sign is mapped into ASCII. -/
theorem target_cases : ∀ r ∈ caseRuns,
    (0x41 ≤ r.first ∧ r.last ≤ 0x5A) ∨ 128 ≤ r.target ∨ (r.first = r.last ∧ r.target = 0x6B) := by
  decide +kernel

theorem toNat_ofNat_of_pos {n : Nat} (h : 0 < (Char.ofNat n).toNat) : (Char.ofNat n).toNat = n := by
  by_cases hn : n.isValidChar
  · rw [Char.ofNat, dif_pos hn]
    rfl
  · rw [Char.ofNat, dif_neg hn] at h
    contradiction

/-- A small letter of ASCII comes from ASCII, unless it is one of the two that other characters have
among their small letters. -/
theorem ascii_of_mem_lowerChar {c d : Char} (hd : d ∈ lowerChar c) (hpos : 0 < d.toNat)
    (hascii : d.toNat < 128) : c.toNat < 128 ∨ d = 'i' ∨ d = 'k' := by
  unfold lowerChar at hd
  split at hd
  · rcases List.mem_pair.mp hd with rfl | rfl
    · exact .inr (.inl rfl)
    · exact absurd hascii (by decide)
  · split at hd
    · rename_i r hr
      rw [List.mem_singleton.mp hd] at hpos hascii ⊢
      have hn : (Char.ofNat (r.lower c.toNat)).toNat = r.lower c.toNat := toNat_ofNat_of_pos hpos
      have hcovers := List.find?_some hr
      simp only [CaseRun.covers, Bool.and_eq_true, decide_eq_true_eq] at hcovers
      rw [hn, CaseRun.lower] at hascii
      rcases target_cases r (List.mem_of_find?_eq_some hr) with
        ⟨-, hlast⟩ | htarget | ⟨hone, htarget⟩
      · exact .inl (by omega)
      · omega
      · have hk : r.lower c.toNat = 0x6B := by
          rw [CaseRun.lower]
          omega
        exact .inr (.inr (by rw [hk]))
    · exact .inl (List.mem_singleton.mp hd ▸ hascii)

theorem exists_mem_lowerChar (c : Char) : ∃ d, d ∈ lowerChar c := by
  unfold lowerChar
  split
  · exact ⟨_, List.mem_cons_self ..⟩
  · split <;> exact ⟨_, List.mem_singleton_self _⟩

/-- Every character leaves one behind: a small sigma, or one that it is mapped to. -/
theorem exists_mem_lowerFrom (before : List Char) {cs : List Char} {c : Char} (hc : c ∈ cs) :
    ∃ d ∈ lowerFrom before cs, d ∈ lowerChar c ∨ 128 ≤ d.toNat := by
  induction cs generalizing before with
  | nil => cases hc
  | cons a cs ih =>
    rw [lowerFrom]
    rcases List.mem_cons.mp hc with rfl | hc
    · split
      · refine ⟨_, List.mem_append_left _ (List.mem_singleton_self _), .inr ?_⟩
        rw [lowerSigma]
        split <;> decide
      · obtain ⟨d, hd⟩ := exists_mem_lowerChar c
        exact ⟨d, List.mem_append_left _ hd, .inl hd⟩
    · obtain ⟨d, hd, hcase⟩ := ih (a :: before) hc
      exact ⟨d, List.mem_append_right _ hd, hcase⟩

/-- A text is ASCII if what it lowercases to is, and holds none of the two letters that characters
beyond ASCII are mapped to. -/
theorem ascii_of_lowercase {s : String}
    (h : ∀ d ∈ (lowercase s).toList, 0 < d.toNat ∧ d.toNat < 128 ∧ d ≠ 'i' ∧ d ≠ 'k') :
    ∀ c ∈ s.toList, c.toNat < 128 := by
  intro c hc
  rw [lowercase, String.toList_ofList] at h
  obtain ⟨d, hd, hcase⟩ := exists_mem_lowerFrom [] hc
  obtain ⟨hpos, hascii, hi, hk⟩ := h d hd
  rcases hcase with hcase | hcase
  · rcases ascii_of_mem_lowerChar hcase hpos hascii with hc | hd | hd
    · exact hc
    · exact absurd hd hi
    · exact absurd hd hk
  · omega

theorem lowerFrom_ascii {before cs : List Char} (h : ∀ c ∈ cs, c.toNat < 128) :
    lowerFrom before cs = cs.map Char.toLower := by
  induction cs generalizing before with
  | nil => rfl
  | cons c cs ih =>
    rw [List.forall_mem_cons] at h
    have hsigma : c ≠ 'Σ' := by
      rintro rfl
      exact absurd h.1 (by decide)
    rw [lowerFrom, if_neg hsigma, lowerChar_ascii h.1, ih h.2]
    rfl

/-- On ASCII, letters are lowercased one by one. -/
theorem toList_lowercase_ascii {s : String} (h : ∀ c ∈ s.toList, c.toNat < 128) :
    (lowercase s).toList = s.toList.map Char.toLower := by
  rw [lowercase, String.toList_ofList, lowerFrom_ascii h]

theorem toLower_ascii {c : Char} (h : c.toNat < 128) :
    c.toLower.toNat < 128 ∧ c.toLower.toLower = c.toLower :=
  forall_ascii (p := fun c => c.toLower.toNat < 128 ∧ c.toLower.toLower = c.toLower)
    (by decide +kernel) h

/-- Lowercasing a text of ASCII once more changes nothing. -/
theorem lowercase_lowercase_ascii {s : String} (h : ∀ c ∈ s.toList, c.toNat < 128) :
    lowercase (lowercase s) = lowercase s := by
  have hlower : ∀ d ∈ (lowercase s).toList, d.toNat < 128 ∧ d.toLower = d := by
    intro d hd
    rw [toList_lowercase_ascii h] at hd
    obtain ⟨c, hc, rfl⟩ := List.mem_map.mp hd
    exact toLower_ascii (h c hc)
  rw [← String.toList_inj, toList_lowercase_ascii fun d hd => (hlower d hd).1]
  exact (List.map_congr_left fun d hd => (hlower d hd).2).trans (List.map_id _)

end MarketQuery.Text
