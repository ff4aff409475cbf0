import MarketQuery.Decimal.Amount
import Mathlib.Algebra.Group.Nat.Defs
import Mathlib.Data.Char
import Mathlib.Order.Compare

namespace MarketQuery.Decimal

def number (cs : List Char) : Nat := Nat.ofDigitChars 10 cs 0

def value (s : String) : Nat := number s.toList

def Amount (s : String) : Prop := s ≠ "" ∧ ∀ c ∈ s.toList, c.isDigit = true

theorem isAmount_iff {s : String} : isAmount s = true ↔ Amount s := by
  rw [isAmount, Bool.and_eq_true, Bool.not_eq_true', ← Bool.not_eq_true, String.isEmpty_iff,
    List.all_eq_true]
  rfl

theorem number_cons (c : Char) (cs : List Char) :
    number (c :: cs) = 10 ^ cs.length * (c.toNat - '0'.toNat) + number cs := by
  rw [number, Nat.ofDigitChars_cons, Nat.ofDigitChars_eq_ofDigitChars_zero, Nat.mul_zero,
    Nat.zero_add]
  rfl

/-- A number stays below the power of ten that its length allows. -/
theorem number_lt {cs : List Char} (h : ∀ c ∈ cs, c.isDigit = true) :
    number cs < 10 ^ cs.length := by
  induction cs with
  | nil => exact Nat.one_pos
  | cons c cs ih =>
    rw [List.forall_mem_cons] at h
    have hdigit : c.toNat - '0'.toNat + 1 ≤ 10 := by
      have hnine : c.toNat ≤ '0'.toNat + 9 := (Char.isDigit_iff_toNat.mp h.1).2
      omega
    calc number (c :: cs)
        = 10 ^ cs.length * (c.toNat - '0'.toNat) + number cs := number_cons c cs
      _ < 10 ^ cs.length * (c.toNat - '0'.toNat) + 10 ^ cs.length :=
        Nat.add_lt_add_left (ih h.2) _
      _ = 10 ^ cs.length * (c.toNat - '0'.toNat + 1) := (Nat.mul_succ ..).symm
      _ ≤ 10 ^ cs.length * 10 := Nat.mul_le_mul_left _ hdigit
      _ = 10 ^ (c :: cs).length := (Nat.pow_succ ..).symm

/-- Without zeros in front, digits denote no less than their count promises. -/
theorem le_number {c : Char} (hdigit : c.isDigit = true) (hc : c ≠ '0') (cs : List Char) :
    10 ^ cs.length ≤ number (c :: cs) := by
  have hzero : '0'.toNat ≤ c.toNat := (Char.isDigit_iff_toNat.mp hdigit).1
  have hne : '0'.toNat ≠ c.toNat := fun he => hc (Char.toNat_inj.mp he.symm)
  have hpos : 1 ≤ c.toNat - '0'.toNat := by omega
  rw [number_cons]
  exact (Nat.le_mul_of_pos_right _ hpos).trans (Nat.le_add_right ..)

/-- Zeros in front do not count. -/
theorem number_stripZeros (cs : List Char) : number (stripZeros cs) = number cs := by
  induction cs with
  | nil => rfl
  | cons c cs ih =>
    rw [stripZeros, List.dropWhile_cons]
    split
    · rename_i hc
      rw [number_cons, eq_of_beq hc, Nat.sub_self, Nat.mul_zero, Nat.zero_add]
      exact ih
    · rfl

theorem stripZeros_subset (cs : List Char) : stripZeros cs ⊆ cs :=
  (List.dropWhile_sublist _).subset

theorem ne_zero_of_stripZeros {c : Char} {cs ds : List Char} (h : stripZeros cs = c :: ds) :
    c ≠ '0' := by
  have hhead := List.head?_dropWhile_not (· == '0') cs
  rw [stripZeros] at h
  rw [h] at hhead
  exact ne_of_beq_false hhead

/-- The order of two numbers in mixed base: the greater place decides first. -/
theorem compare_places {k x y r s : Nat} (hr : r < k) (hs : s < k) :
    compare (k * x + r) (k * y + s) = (compare x y).then (compare r s) := by
  have hlt {x y r s : Nat} (hr : r < k) (h : x < y) : k * x + r < k * y + s :=
    calc k * x + r < k * x + k := Nat.add_lt_add_left hr _
      _ = k * (x + 1) := (Nat.mul_succ ..).symm
      _ ≤ k * y := Nat.mul_le_mul_left _ h
      _ ≤ k * y + s := Nat.le_add_right ..
  rcases lt_trichotomy x y with h | rfl | h
  · rw [compare_lt_iff_lt.mpr h, compare_lt_iff_lt.mpr (hlt hr h)]
    rfl
  · rw [compare_eq_iff_eq.mpr rfl]
    rcases lt_trichotomy r s with h | rfl | h
    · rw [compare_lt_iff_lt.mpr h, compare_lt_iff_lt.mpr (Nat.add_lt_add_left h _)]
      rfl
    · rw [compare_eq_iff_eq.mpr rfl, compare_eq_iff_eq.mpr rfl]
      rfl
    · rw [compare_gt_iff_gt.mpr h, compare_gt_iff_gt.mpr (Nat.add_lt_add_left h _)]
      rfl
  · rw [compare_gt_iff_gt.mpr h, compare_gt_iff_gt.mpr (hlt hs h)]
    rfl

theorem compare_digit {a b : Char} (ha : a.isDigit = true) (hb : b.isDigit = true) :
    compare (a.toNat - '0'.toNat) (b.toNat - '0'.toNat) = compare a b := by
  have ha := (Char.isDigit_iff_toNat.mp ha).1
  have hb := (Char.isDigit_iff_toNat.mp hb).1
  have hlt {x y : Char} (h : x < y) : x.toNat < y.toNat := h
  rcases lt_trichotomy a b with h | rfl | h
  · rw [compare_lt_iff_lt.mpr h, compare_lt_iff_lt]
    exact Nat.sub_lt_sub_right ha (hlt h)
  · rw [compare_eq_iff_eq.mpr rfl, compare_eq_iff_eq.mpr rfl]
  · rw [compare_gt_iff_gt.mpr h, compare_gt_iff_gt]
    exact Nat.sub_lt_sub_right hb (hlt h)

/-- Of equally many digits, the first ones that are not the same decide. -/
theorem compareDigits_eq {as bs : List Char} (hlength : as.length = bs.length)
    (ha : ∀ c ∈ as, c.isDigit = true) (hb : ∀ c ∈ bs, c.isDigit = true) :
    compareDigits as bs = compare (number as) (number bs) := by
  induction as generalizing bs with
  | nil =>
    obtain rfl := List.length_eq_zero_iff.mp hlength.symm
    rfl
  | cons a as ih =>
    cases bs with
    | nil => cases hlength
    | cons b bs =>
      rw [List.forall_mem_cons] at ha hb
      have hlength := Nat.succ.inj hlength
      rw [number_cons, number_cons, hlength,
        compare_places (hlength ▸ number_lt ha.2) (number_lt hb.2), ← ih hlength ha.2 hb.2,
        compare_digit ha.1 hb.1]
      rfl

/-- Fewer digits denote a smaller number, as long as the others do not begin with zeros. -/
theorem number_lt_number {as bs cs : List Char} (ha : ∀ c ∈ as, c.isDigit = true)
    (hb : ∀ c ∈ bs, c.isDigit = true) (hstrip : stripZeros cs = bs)
    (hlength : as.length < bs.length) : number as < number bs := by
  cases bs with
  | nil => cases hlength
  | cons b bs =>
    calc number as < 10 ^ as.length := number_lt ha
      _ ≤ 10 ^ bs.length := Nat.pow_le_pow_right (by decide) (Nat.le_of_lt_succ hlength)
      _ ≤ number (b :: bs) :=
        le_number (hb b (List.mem_cons_self ..)) (ne_zero_of_stripZeros hstrip) bs

/-- Amounts are compared as the numbers that they denote. -/
theorem compareAmounts_eq {a b : String} (ha : ∀ c ∈ a.toList, c.isDigit = true)
    (hb : ∀ c ∈ b.toList, c.isDigit = true) :
    compareAmounts a b = compare (value a) (value b) := by
  have has : ∀ c ∈ stripZeros a.toList, c.isDigit = true :=
    fun c hc => ha c (stripZeros_subset _ hc)
  have hbs : ∀ c ∈ stripZeros b.toList, c.isDigit = true :=
    fun c hc => hb c (stripZeros_subset _ hc)
  rw [compareAmounts, value, value, ← number_stripZeros a.toList, ← number_stripZeros b.toList]
  rcases lt_trichotomy (stripZeros a.toList).length (stripZeros b.toList).length with h | h | h
  · rw [compare_lt_iff_lt.mpr h, compare_lt_iff_lt.mpr (number_lt_number has hbs rfl h)]
    rfl
  · rw [compare_eq_iff_eq.mpr h, ← compareDigits_eq h has hbs]
    rfl
  · rw [compare_gt_iff_gt.mpr h, compare_gt_iff_gt.mpr (number_lt_number hbs has rfl h)]
    rfl

end MarketQuery.Decimal
