import MarketQuery.Config
import MarketQuery.Proofs.Text.Normal

namespace MarketQuery

def OpensName (c : Char) : Prop := ('A' ≤ c ∧ c ≤ 'Z') ∨ ('a' ≤ c ∧ c ≤ 'z') ∨ c = '_'

/-- A letter or underscore, and then letters, underscores and digits. -/
def PlainName (s : String) : Prop :=
  ∃ c cs, s.toList = c :: cs ∧ OpensName c ∧ ∀ d ∈ cs, OpensName d ∨ ('0' ≤ d ∧ d ≤ '9')

def HexDigit (c : Char) : Prop :=
  ('0' ≤ c ∧ c ≤ '9') ∨ ('A' ≤ c ∧ c ≤ 'F') ∨ ('a' ≤ c ∧ c ≤ 'f')

instance : DecidablePred HexDigit := fun _ =>
  inferInstanceAs (Decidable ((_ ∧ _) ∨ (_ ∧ _) ∨ _))

def Address (s : String) : Prop :=
  ∃ x ds, s.toList = '0' :: x :: ds ∧ (x = 'x' ∨ x = 'X') ∧ ds.length = 40 ∧ ∀ d ∈ ds, HexDigit d

theorem isAlpha_iff {c : Char} : (c.isAlpha = true ∨ c = '_') ↔ OpensName c := by
  have hupper : c.isUpper = true ↔ 'A' ≤ c ∧ c ≤ 'Z' := by
    change decide ('A' ≤ c ∧ c ≤ 'Z') = true ↔ _
    rw [decide_eq_true_eq]
  have hlower : c.isLower = true ↔ 'a' ≤ c ∧ c ≤ 'z' := by
    change (decide ('a' ≤ c) && decide (c ≤ 'z')) = true ↔ _
    rw [Bool.and_eq_true, decide_eq_true_eq, decide_eq_true_eq]
  have halpha : c.isAlpha = true ↔ c.isUpper = true ∨ c.isLower = true := Bool.or_eq_true_iff
  rw [OpensName, halpha, hupper, hlower, or_assoc]

theorem isAlphanum_iff {c : Char} :
    (c.isAlphanum = true ∨ c = '_') ↔ OpensName c ∨ ('0' ≤ c ∧ c ≤ '9') := by
  have hdigit : c.isDigit = true ↔ '0' ≤ c ∧ c ≤ '9' := by
    simp only [Char.isDigit, Bool.and_eq_true, decide_eq_true_eq]
    rfl
  rw [Char.isAlphanum, Bool.or_eq_true, or_right_comm, isAlpha_iff, hdigit]

/-- A name passes exactly if it can be written into a text without quotes. -/
theorem isIdentifier_iff {s : String} : isIdentifier s = true ↔ PlainName s := by
  rw [isIdentifier]
  cases hs : s.toList with
  | nil => exact ⟨nofun, fun ⟨c, cs, h, _⟩ => by rw [hs] at h; cases h⟩
  | cons c cs =>
    simp only [Bool.and_eq_true, Bool.or_eq_true, decide_eq_true_eq, List.all_eq_true, isAlpha_iff,
      isAlphanum_iff]
    refine ⟨fun ⟨hc, hcs⟩ => ⟨c, cs, hs, hc, hcs⟩, fun ⟨d, ds, he, hd, hds⟩ => ?_⟩
    obtain ⟨rfl, rfl⟩ := List.cons.inj (hs.symm.trans he)
    exact ⟨hd, hds⟩

section Addresses

open Text

theorem HexDigit.ascii {c : Char} (h : HexDigit c) : 0 < c.toNat ∧ c.toNat < 128 ∧ c ≠ 'i' ∧
    c ≠ 'k' := by
  have hbounds : 0x30 ≤ c.toNat ∧ c.toNat ≤ 0x66 := by
    rcases h with ⟨hl, hu⟩ | ⟨hl, hu⟩ | ⟨hl, hu⟩ <;>
    · have hl := UInt32.le_iff_toNat_le.mp hl
      have hu := UInt32.le_iff_toNat_le.mp hu
      exact ⟨Nat.le_trans (by decide) hl, Nat.le_trans hu (by decide)⟩
  refine ⟨by omega, by omega, ?_, ?_⟩ <;> rintro rfl <;> exact absurd hbounds.2 (by decide)

theorem hexDigit_of_isSome {c : Char} (h : (Json.hexDigit? c).isSome = true) : HexDigit c := by
  rw [Json.hexDigit?] at h
  split_ifs at h with hdigit hsmall hcapital
  · exact .inl (by simpa using hdigit)
  · exact .inr (.inr (by simpa using hsmall))
  · exact .inr (.inl (by simpa using hcapital))
  · contradiction

/-- What the small letter of a character of ASCII tells of it. -/
theorem toLower_spelling {c : Char} (h : c.toNat < 128) :
    (c.toLower = '0' ↔ c = '0') ∧ (c.toLower = 'x' ↔ c = 'x' ∨ c = 'X') ∧
      ((Json.hexDigit? c.toLower).isSome = true ↔ HexDigit c) :=
  forall_ascii (p := fun c => (c.toLower = '0' ↔ c = '0') ∧ (c.toLower = 'x' ↔ c = 'x' ∨ c = 'X') ∧
    ((Json.hexDigit? c.toLower).isSome = true ↔ HexDigit c)) (by decide +kernel) h

theorem isAddress_iff {s : String} : isAddress s = true ↔
    ∃ ds, s.toList = '0' :: 'x' :: ds ∧ ds.length = 40 ∧
      ∀ d ∈ ds, (Json.hexDigit? d).isSome = true := by
  rw [isAddress]
  split
  · rename_i ds hs
    simp only [Bool.and_eq_true, decide_eq_true_eq, List.all_eq_true]
    refine ⟨fun h => ⟨ds, hs, h⟩, fun ⟨es, he, h⟩ => ?_⟩
    cases hs.symm.trans he
    exact h
  · rename_i hne
    exact ⟨nofun, fun ⟨ds, hs, _⟩ => absurd hs (hne ds)⟩

theorem Address.ascii {s : String} (h : Address s) : ∀ c ∈ s.toList, c.toNat < 128 := by
  obtain ⟨x, ds, hs, hx, -, hds⟩ := h
  rw [hs, List.forall_mem_cons, List.forall_mem_cons]
  refine ⟨by decide, ?_, fun d hd => (hds d hd).ascii.2.1⟩
  rcases hx with rfl | rfl <;> decide

/-- Of the characters that are lowercased to one of an address, none is beyond ASCII. -/
theorem ascii_of_isAddress {s : String} (h : isAddress (lowercase s) = true) :
    ∀ c ∈ s.toList, c.toNat < 128 := by
  obtain ⟨ds, hs, -, hds⟩ := isAddress_iff.mp h
  refine ascii_of_lowercase ?_
  rw [hs, List.forall_mem_cons, List.forall_mem_cons]
  exact ⟨by decide, by decide, fun d hd => (hexDigit_of_isSome (hds d hd)).ascii⟩

theorem not_isSpace_of_isAddress {s : String} (h : isAddress s = true) :
    ∀ c ∈ s.toList, isSpace c = false := by
  obtain ⟨ds, hs, -, hds⟩ := isAddress_iff.mp h
  rw [hs, List.forall_mem_cons, List.forall_mem_cons]
  refine ⟨by decide, by decide, fun d hd => ?_⟩
  have hdigit := hexDigit_of_isSome (hds d hd)
  exact forall_ascii (p := fun c => HexDigit c → isSpace c = false) (by decide +kernel)
    hdigit.ascii.2.1 hdigit

/-- An address is checked when it is in small letters already. It passes exactly if it was
well-formed in letters of either case, so no character beyond ASCII is taken for a digit. -/
theorem isAddress_lowercase_iff {s : String} : isAddress (lowercase s) = true ↔ Address s := by
  refine ⟨fun h => ?lower, fun h => ?upper⟩
  case lower =>
    have hascii := ascii_of_isAddress h
    obtain ⟨ds, hs, hlength, hds⟩ := isAddress_iff.mp h
    rw [toList_lowercase_ascii hascii] at hs
    obtain ⟨o, r, he, ho, hr⟩ := List.map_eq_cons_iff.mp hs
    obtain ⟨x, es, rfl, hx, rfl⟩ := List.map_eq_cons_iff.mp hr
    rw [he, List.forall_mem_cons, List.forall_mem_cons] at hascii
    obtain ⟨hoascii, hxascii, hesascii⟩ := hascii
    have ho := (toLower_spelling hoascii).1.mp ho
    have hx := (toLower_spelling hxascii).2.1.mp hx
    refine ⟨x, es, by rw [he, ho], hx, by simpa using hlength, fun d hd => ?_⟩
    exact (toLower_spelling (hesascii d hd)).2.2.mp (hds _ (List.mem_map_of_mem hd))
  case upper =>
    have hascii := h.ascii
    obtain ⟨x, ds, hs, hx, hlength, hds⟩ := h
    have hxlower : x.toLower = 'x' := by rcases hx with rfl | rfl <;> decide
    refine isAddress_iff.mpr ⟨ds.map Char.toLower, ?_, by simpa using hlength, fun d hd => ?_⟩
    · rw [toList_lowercase_ascii hascii, hs, List.map_cons, List.map_cons, hxlower]
      rfl
    · obtain ⟨c, hc, rfl⟩ := List.mem_map.mp hd
      have hcascii : c.toNat < 128 := (hds c hc).ascii.2.1
      exact (toLower_spelling hcascii).2.2.mpr (hds c hc)

end Addresses

end MarketQuery
