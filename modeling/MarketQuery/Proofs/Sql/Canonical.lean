import Mathlib.Data.List.Chain
import MarketQuery.Proofs.Sql.Segments

namespace MarketQuery.Sql

namespace Segment

def Apart : Segment → Segment → Prop
  | .sql _, .sql _ => False
  | _, _ => True

/-- No text is empty, and none stands next to another. -/
structure Canonical (segs : List Segment) : Prop where
  filled : .sql "" ∉ segs
  apart : segs.IsChain Apart

theorem apart_sql_left_iff {y : Segment} (s t : String) : Apart (.sql s) y ↔ Apart (.sql t) y := by
  cases y <;> rfl

theorem apart_sql_right_iff {x : Segment} (s t : String) : Apart x (.sql s) ↔ Apart x (.sql t) := by
  cases x <;> rfl

section Canonical

variable {l r : List Segment} {x : Segment} {s t : String}

theorem canonical_nil : Canonical [] := ⟨List.not_mem_nil, .nil⟩

/-- Two lists make one in canonical form if both have it and their seam is not between two texts. -/
theorem canonical_append_iff : Canonical (l ++ r) ↔
    Canonical l ∧ Canonical r ∧ ∀ x ∈ l.getLast?, ∀ y ∈ r.head?, Apart x y := by
  constructor
  · rintro ⟨hfilled, hapart⟩
    rw [List.mem_append, not_or] at hfilled
    obtain ⟨hl, hr, hseam⟩ := List.isChain_append.mp hapart
    exact ⟨⟨hfilled.1, hl⟩, ⟨hfilled.2, hr⟩, hseam⟩
  · rintro ⟨hl, hr, hseam⟩
    refine ⟨?_, List.isChain_append.mpr ⟨hl.apart, hr.apart, hseam⟩⟩
    rw [List.mem_append, not_or]
    exact ⟨hl.filled, hr.filled⟩

theorem canonical_singleton_iff : Canonical [x] ↔ x ≠ .sql "" := by
  constructor
  · rintro ⟨hfilled, -⟩ rfl
    exact hfilled (List.mem_singleton_self _)
  · exact fun h => ⟨fun hx => h (List.mem_singleton.mp hx).symm, .singleton x⟩

theorem canonical_cons_iff : Canonical (x :: r) ↔
    x ≠ .sql "" ∧ Canonical r ∧ ∀ y ∈ r.head?, Apart x y := by
  have h := canonical_append_iff (l := [x]) (r := r)
  simpa [canonical_singleton_iff] using h

/-- A text may take the place of another, wherever that stands. -/
theorem Canonical.replace (h : Canonical (l ++ .sql s :: r)) (ht : t ≠ "") :
    Canonical (l ++ .sql t :: r) := by
  obtain ⟨hl, hr, hseam⟩ := canonical_append_iff.mp h
  obtain ⟨-, hr, hnext⟩ := canonical_cons_iff.mp hr
  refine canonical_append_iff.mpr ⟨hl, canonical_cons_iff.mpr ⟨?_, hr, fun y hy => ?_⟩, ?_⟩
  · simpa using ht
  · exact (apart_sql_left_iff s t).mp (hnext y hy)
  · rintro x hx y ⟨⟩
    exact (apart_sql_right_iff s t).mp (hseam x hx _ rfl)

end Canonical

end Segment

namespace Fragment

open Segment

/-- The segments of a fragment are in canonical form. -/
theorem canonical_segments (f : Fragment) : Canonical f.segments := by
  rw [segments_eq]
  induction f.atoms with
  | nil => exact canonical_nil
  | cons x xs ih =>
    cases x with
    | param p => exact canonical_cons_iff.mpr ⟨nofun, ih, fun _ _ => trivial⟩
    | char c =>
      have htext (cs : List Char) : String.ofList (c :: cs) ≠ "" :=
        mt String.ofList_eq_empty_iff.mp (List.cons_ne_nil c cs)
      have hfilled : ofRun (.inl [c]) ≠ .sql "" := fun h => htext [] (Segment.sql.inj h)
      rw [runs]
      rcases hruns : runs xs with _ | ⟨cs | p, rest⟩ <;> rw [hruns] at ih
      · exact canonical_singleton_iff.mpr hfilled
      · exact ih.replace (l := []) (htext cs)
      · exact canonical_cons_iff.mpr ⟨hfilled, ih, fun y hy => by cases hy; trivial⟩

theorem segments_text {s : String} (h : s ≠ "") : (text s).segments = [.sql s] := by
  obtain ⟨c, cs, hcs⟩ := List.exists_cons_of_ne_nil (mt String.toList_eq_nil_iff.mp h)
  rw [segments_eq, atoms_text, hcs, runs_chars, List.map_singleton, ofRun, ← hcs,
    String.ofList_toList]

/-- Canonical segments are got back from what stands in them. -/
theorem segments_of_canonical {segs : List Segment} (h : Canonical segs) :
    segments ⟨segs.flatMap Segment.atoms⟩ = segs := by
  induction segs with
  | nil => rfl
  | cons x r ih =>
    obtain ⟨hx, hr, hnext⟩ := canonical_cons_iff.mp h
    have ih := ih hr
    cases x with
    | param p => exact (segments_bind empty _ p).trans (congrArg (_ :: ·) ih)
    | sql s =>
      have hs : (text s).segments = [.sql s] := segments_text fun h => hx (h ▸ rfl)
      cases r with
      | nil =>
        rw [List.flatMap_singleton]
        exact hs
      | cons y r =>
        cases y with
        | sql t => exact (hnext _ rfl).elim
        | param p =>
          -- the text ends where the value stands
          have hrest := (segments_bind empty ⟨r.flatMap Segment.atoms⟩ p).symm.trans ih
          have hall := segments_bind (text s) ⟨r.flatMap Segment.atoms⟩ p
          rw [hs] at hall
          exact hall.trans (congrArg (_ :: ·) hrest)

/-- The segments of a fragment are its only canonical ones. -/
theorem eq_segments_iff {f : Fragment} {segs : List Segment} :
    Canonical segs ∧ segs.flatMap Segment.atoms = f.atoms ↔ segs = f.segments := by
  constructor
  · rintro ⟨hsegs, hatoms⟩
    rw [← segments_of_canonical hsegs, hatoms]
  · rintro rfl
    exact ⟨canonical_segments f, atoms_segments f⟩

end Fragment

end MarketQuery.Sql
