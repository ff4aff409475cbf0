import MarketQuery.Proofs.Sql.Occurrence

namespace MarketQuery.Sql

section Words

variable {α : Type} {l r p t s : List α} {c : α}

theorem not_prefix_cons {x : α} (h : c ≠ x) (xs : List α) : ¬ c :: t <+: x :: xs :=
  fun hp => h (List.cons_prefix_cons.mp hp).1

/-- A word is not found in a part without its first letter, nor across the end of it. -/
theorem infix_append_iff_of_not_mem (h : c ∉ p) : c :: t <:+: p ++ r ↔ c :: t <:+: r := by
  induction p with
  | nil => rfl
  | cons x p ih =>
    rw [List.mem_cons, not_or] at h
    rw [List.cons_append, List.infix_cons_iff, ih h.2]
    exact or_iff_right (not_prefix_cons h.1 _)

/-- A word that a separator is not the beginning of occurs in none of the parts and at none of
their seams. -/
theorem infix_join_iff {ps : List (List α)} (hs : c ∉ s) (hst : ∀ x, ¬ t <+: s ++ x)
    (h : ∀ q ∈ p :: ps, c ∉ q) :
    c :: t <:+: p ++ (ps.flatMap (c :: s ++ ·) ++ r) ↔ c :: t <:+: r := by
  induction ps generalizing p with
  | nil => exact infix_append_iff_of_not_mem (h p (List.mem_cons_self ..))
  | cons q ps ih =>
    rw [List.forall_mem_cons] at h
    rw [infix_append_iff_of_not_mem h.1, List.flatMap_cons, List.append_assoc, List.append_assoc,
      List.cons_append, List.infix_cons_iff, infix_append_iff_of_not_mem hs, ih h.2]
    exact or_iff_right fun hp => hst _ (List.cons_prefix_cons.mp hp).2

end Words

section Cuts

variable {α : Type} [DecidableEq α] {w l r p t : List α} {c : α}

/-- The pieces of what is left, where so many letters of the word have still to be passed over. -/
def piecesFrom (w : List α) : Nat → List α → List (List α)
  | _, [] => [[]]
  | n + 1, _ :: xs => piecesFrom w n xs
  | 0, x :: xs =>
    if w <+: x :: xs then [] :: piecesFrom w (w.length - 1) xs
    else (piecesFrom w 0 xs).modifyHead (x :: ·)

/-- What stands between the places of a word. -/
def pieces (w xs : List α) : List (List α) := piecesFrom w 0 xs

def beforeFirst (w : List α) : List α → List α
  | [] => []
  | x :: xs => if w <+: x :: xs then [] else x :: beforeFirst w xs

def behindLast (w : List α) : List α → Option (List α)
  | [] => none
  | x :: xs =>
    match behindLast w xs with
    | some r => some r
    | none => if w <+: x :: xs then some ((x :: xs).drop w.length) else none

theorem piecesFrom_length (w l r : List α) :
    piecesFrom w l.length (l ++ r) = piecesFrom w 0 r := by
  induction l with
  | nil => rfl
  | cons x l ih => exact ih

theorem pieces_of_not_mem (h : c ∉ p) : pieces (c :: t) p = [p] := by
  induction p with
  | nil => rfl
  | cons x p ih =>
    rw [List.mem_cons, not_or] at h
    have ih : piecesFrom (c :: t) 0 p = [p] := ih h.2
    rw [pieces, piecesFrom, if_neg (not_prefix_cons h.1 p), ih, List.modifyHead_cons]

/-- The first piece ends where the word stands for the first time. -/
theorem pieces_append (h : c ∉ p) (r : List α) :
    pieces (c :: t) (p ++ (c :: t ++ r)) = p :: pieces (c :: t) r := by
  induction p with
  | nil =>
    have hplace : c :: t <+: c :: (t ++ r) := List.prefix_append (c :: t) r
    rw [List.nil_append, List.cons_append, pieces, piecesFrom, if_pos hplace, List.length_cons,
      Nat.add_sub_cancel, piecesFrom_length]
    rfl
  | cons x p ih =>
    rw [List.mem_cons, not_or] at h
    have ih : piecesFrom (c :: t) 0 (p ++ (c :: t ++ r)) = p :: pieces (c :: t) r := ih h.2
    rw [List.cons_append, pieces, piecesFrom, if_neg (not_prefix_cons h.1 _), ih,
      List.modifyHead_cons]

/-- Joined parts are got back. -/
theorem pieces_join {ps : List (List α)} (h : ∀ q ∈ p :: ps, c ∉ q) :
    pieces (c :: t) (p ++ ps.flatMap (c :: t ++ ·)) = p :: ps := by
  induction ps generalizing p with
  | nil =>
    rw [List.flatMap_nil, List.append_nil]
    exact pieces_of_not_mem (h p (List.mem_cons_self ..))
  | cons q ps ih =>
    rw [List.forall_mem_cons] at h
    rw [List.flatMap_cons, List.append_assoc, pieces_append h.1, ih h.2]

theorem behindLast_of_absent (h : ¬ w <:+: l) : behindLast w l = none := by
  induction l with
  | nil => rfl
  | cons x l ih =>
    rw [List.infix_cons_iff, not_or] at h
    rw [behindLast, ih h.2, if_neg h.1]

/-- A word that does not begin again behind some place stands there for the last time. -/
theorem behindLast_append (h : ¬ w <:+: w.tail ++ r) (l : List α) :
    behindLast w (l ++ (w ++ r)) = some r := by
  induction l with
  | nil =>
    cases w with
    | nil => exact absurd List.nil_infix h
    | cons c t =>
      have hplace : c :: t <+: c :: (t ++ r) := List.prefix_append (c :: t) r
      have hrest : behindLast (c :: t) (t ++ r) = none := behindLast_of_absent h
      have hdrop : (c :: (t ++ r)).drop (c :: t).length = r := by simp
      rw [List.nil_append, List.cons_append, behindLast, hrest, if_pos hplace, hdrop]
  | cons x l ih => rw [List.cons_append, behindLast, ih]

/-- A word that has not begun before some place stands there for the first time. -/
theorem beforeFirst_append (h : ¬ w <:+: l ++ w.dropLast) (r : List α) :
    beforeFirst w (l ++ (w ++ r)) = l := by
  induction l with
  | nil =>
    cases w with
    | nil => exact absurd List.nil_infix h
    | cons c t =>
      have hplace : c :: t <+: c :: (t ++ r) := List.prefix_append (c :: t) r
      rw [List.nil_append, List.cons_append, beforeFirst, if_pos hplace]
  | cons x l ih =>
    have htail : ¬ w <:+: l ++ w.dropLast := fun hin => h (List.infix_cons hin)
    have hplace : ¬ w <+: x :: (l ++ (w ++ r)) := fun hp => by
      have hin : x :: l <+: [] := prefix_of_absent h hp
      cases List.prefix_nil.mp hin
    rw [List.cons_append, beforeFirst, if_neg hplace, ih htail]

end Cuts

namespace Fragment

def pieces (s : String) (x : Fragment) : List Fragment :=
  (Sql.pieces (text s).atoms x.atoms).map Fragment.mk

def beforeFirst (s : String) (x : Fragment) : Fragment :=
  ⟨Sql.beforeFirst (text s).atoms x.atoms⟩

def behindLast (s : String) (x : Fragment) : Option Fragment :=
  (Sql.behindLast (text s).atoms x.atoms).map Fragment.mk

theorem behindLast_append {s : String} {r : Fragment}
    (h : ¬ (text s).atoms <:+: (text s).atoms.tail ++ r.atoms) (l : Fragment) :
    (l ++ (text s ++ r)).behindLast s = some r := by
  rw [behindLast, atoms_append, atoms_append (text s), Sql.behindLast_append h]
  rfl

theorem beforeFirst_append {s : String} {l : Fragment}
    (h : ¬ (text s).atoms <:+: l.atoms ++ (text s).atoms.dropLast) (r : Fragment) :
    (l ++ (text s ++ r)).beforeFirst s = l := by
  rw [beforeFirst, atoms_append, atoms_append (text s), Sql.beforeFirst_append h]

end Fragment

end MarketQuery.Sql
