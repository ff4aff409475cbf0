import MarketQuery.Proofs.Sql.Canonical
import MarketQuery.Proofs.Sql.Prefix
import MarketQuery.Proofs.Sql.Replay

namespace MarketQuery.Sql

open Segment (Apart Canonical)

theorem map_intersperse {α β : Type} (f : α → β) (s : α) (xs : List α) :
    (xs.intersperse s).map f = (xs.map f).intersperse (f s) := by
  induction xs with
  | nil => rfl
  | cons x xs ih =>
    cases xs with
    | nil => rfl
    | cons y ys =>
      rw [List.intersperse_cons_cons, List.map_cons, List.map_cons, ih]
      rfl

/-- A fragment that is put together in place, as nothing but the list of the segments written so
far. -/
@[ext]
structure Draft where
  segments : List Segment := []
  deriving DecidableEq

namespace Draft

def stream (d : Draft) : List Atom := d.segments.flatMap Segment.atoms

def params (d : Draft) : List Param := d.segments.filterMap Segment.param?

/-- The text with all its numbers raised by `n`. -/
def raised (n : Nat) (d : Draft) : String := Segment.write n 0 d.segments

def push (d : Draft) (text : String) : Draft :=
  if text.isEmpty then d
  else
    match d.segments.getLast? with
    | some (.sql last) => ⟨d.segments.dropLast ++ [.sql (last ++ text)]⟩
    | _ => ⟨d.segments ++ [.sql text]⟩

def bind (d : Draft) (p : Param) : Draft := ⟨d.segments ++ [.param p]⟩

def pushSegment (d : Draft) : Segment → Draft
  | .sql text => d.push text
  | .param p => d.bind p

def append (d e : Draft) : Draft := e.segments.foldl pushSegment d

def concat (ds : List Draft) : Draft := ds.foldl append {}

def joinStep (separator : String) : Option Draft → Draft → Option Draft
  | none, d => some d
  | some joined, d => some ((joined.push separator).append d)

/-- No drafts are joined to none, not to the empty draft. -/
def join (separator : String) (ds : List Draft) : Option Draft :=
  ds.foldl (joinStep separator) none

variable {d : Draft}

/-- Empty text is dropped. Other text makes the last text longer, or is a segment of its own behind
a value and at the beginning. -/
theorem push_cases (d : Draft) (text : String) :
    (text = "" ∧ d.push text = d) ∨
    (text ≠ "" ∧ ∃ l last, d = ⟨l ++ [.sql last]⟩ ∧ d.push text = ⟨l ++ [.sql (last ++ text)]⟩) ∨
    (text ≠ "" ∧ (∀ x ∈ d.segments.getLast?, Apart x (.sql text)) ∧
      d.push text = ⟨d.segments ++ [.sql text]⟩) := by
  by_cases htext : text = ""
  · exact .inl ⟨htext, if_pos (String.isEmpty_iff.mpr htext)⟩
  · have hfilled : ¬ text.isEmpty := mt String.isEmpty_iff.mp htext
    rcases hlast : d.segments.getLast? with _ | last | p
    · refine .inr (.inr ⟨htext, nofun, ?_⟩)
      rw [push, if_neg hfilled, hlast]
    · obtain ⟨l, hl⟩ := List.getLast?_eq_some_iff.mp hlast
      refine .inr (.inl ⟨htext, l, last, Draft.ext hl, ?_⟩)
      rw [push, if_neg hfilled, hlast, hl]
      simp only [List.dropLast_concat]
    · refine .inr (.inr ⟨htext, ?_, ?_⟩)
      · rintro x ⟨⟩
        trivial
      · rw [push, if_neg hfilled, hlast]

/-- Text goes on with the text that it meets at the seam, so none stands next to another. -/
theorem canonical_push (h : Canonical d.segments) (text : String) :
    Canonical (d.push text).segments := by
  rcases d.push_cases text with ⟨-, hd⟩ | ⟨htext, l, last, rfl, hd⟩ | ⟨htext, hseam, hd⟩
  · rwa [hd]
  · rw [hd]
    exact h.replace fun hempty => htext (String.append_eq_empty_iff.mp hempty).2
  · rw [hd]
    refine Segment.canonical_append_iff.mpr ⟨h, Segment.canonical_singleton_iff.mpr ?_, ?_⟩
    · exact fun hs => htext (Segment.sql.inj hs)
    · rintro x hx y ⟨⟩
      exact hseam x hx

theorem canonical_bind (h : Canonical d.segments) (p : Param) :
    Canonical (d.bind p).segments := by
  refine Segment.canonical_append_iff.mpr ⟨h, Segment.canonical_singleton_iff.mpr nofun, ?_⟩
  rintro x - y ⟨⟩
  cases x <;> trivial

theorem stream_push (d : Draft) (text : String) :
    (d.push text).stream = d.stream ++ text.toList.map .char := by
  rcases d.push_cases text with ⟨rfl, hd⟩ | ⟨-, l, last, rfl, hd⟩ | ⟨-, -, hd⟩
  · simp [hd]
  · simp [hd, stream, Segment.atoms]
  · simp [hd, stream, Segment.atoms]

theorem stream_bind (d : Draft) (p : Param) : (d.bind p).stream = d.stream ++ [.param p] := by
  simp [bind, stream, Segment.atoms]

/-- The text of a draft is rendered from what stands in it, however it is cut into segments. -/
theorem raised_eq (n : Nat) (d : Draft) :
    d.raised n = String.ofList (Fragment.renderAtoms n d.stream) := by
  rw [raised, Segment.write_eq, Nat.zero_add, stream]

end Draft

namespace Fragment

def draft (f : Fragment) : Draft := ⟨f.segments⟩

theorem stream_draft (f : Fragment) : f.draft.stream = f.atoms := f.atoms_segments

theorem params_draft (f : Fragment) : f.draft.params = f.params := f.params_segments

theorem raised_zero_draft (f : Fragment) : f.draft.raised 0 = f.render := by
  rw [Draft.raised_eq, stream_draft, render]

/-- A canonical draft is that of the fragment which it stands for. -/
theorem eq_draft_iff {d : Draft} {f : Fragment} :
    Canonical d.segments ∧ d.stream = f.atoms ↔ d = f.draft :=
  eq_segments_iff.trans Draft.ext_iff.symm

theorem draft_inj {f g : Fragment} : f.draft = g.draft ↔ f = g := by
  refine ⟨fun h => Fragment.ext ?_, congrArg draft⟩
  rw [← stream_draft, h, stream_draft]

/-- Text is written behind the draft of a fragment as it is appended to the fragment. -/
theorem push_draft (f : Fragment) (s : String) : f.draft.push s = (f ++ text s).draft := by
  refine eq_draft_iff.mp ⟨Draft.canonical_push f.canonical_segments s, ?_⟩
  rw [Draft.stream_push, stream_draft]
  rfl

theorem bind_draft (f : Fragment) (p : Param) : f.draft.bind p = (f ++ bind p).draft := by
  refine eq_draft_iff.mp ⟨Draft.canonical_bind f.canonical_segments p, ?_⟩
  rw [Draft.stream_bind, stream_draft]
  rfl

theorem foldl_pushSegment_draft (f : Fragment) (segs : List Segment) :
    segs.foldl Draft.pushSegment f.draft = (f ++ ⟨segs.flatMap Segment.atoms⟩).draft := by
  induction segs generalizing f with
  | nil => exact congrArg draft (append_empty f).symm
  | cons x segs ih =>
    have hstep : f.draft.pushSegment x = (f ++ ⟨x.atoms⟩).draft := by
      cases x with
      | sql s => exact push_draft f s
      | param p => exact bind_draft f p
    rw [List.foldl_cons, hstep, ih, append_assoc]
    rfl

/-- Drafts are put together as their fragments are. -/
theorem append_draft (f g : Fragment) : f.draft.append g.draft = (f ++ g).draft := by
  rw [Draft.append, foldl_pushSegment_draft]
  exact congrArg (fun x => (f ++ x).draft) (Fragment.ext g.atoms_segments)

theorem concat_draft (fs : List Fragment) : Draft.concat (fs.map draft) = (concat fs).draft := by
  have hfold (f : Fragment) :
      (fs.map draft).foldl Draft.append f.draft = (f ++ concat fs).draft := by
    induction fs generalizing f with
    | nil => exact congrArg draft (append_empty f).symm
    | cons g fs ih =>
      rw [List.map_cons, List.foldl_cons, append_draft, ih, concat_cons, append_assoc]
  exact hfold empty

/-- Joining drafts comes to the same as joining fragments. -/
theorem join_draft (separator : String) (fs : List Fragment) :
    Draft.join separator (fs.map draft) = (join separator fs).map draft := by
  cases fs with
  | nil => rfl
  | cons f fs =>
    have hfold (f : Fragment) : (fs.map draft).foldl (Draft.joinStep separator) (some f.draft) =
        some (f ++ concat (fs.map (text separator ++ ·))).draft := by
      induction fs generalizing f with
      | nil => exact congrArg (some ∘ draft) (append_empty f).symm
      | cons g fs ih =>
        rw [List.map_cons, List.foldl_cons, Draft.joinStep, push_draft, append_draft, ih,
          List.map_cons, concat_cons, append_assoc, append_assoc, append_assoc]
    exact hfold f

/-- The numbers of what is appended go on where those before it end. -/
theorem render_append (f g : Fragment) :
    (f ++ g).render = f.render ++ g.draft.raised f.paramCount := by
  rw [Draft.raised_eq, stream_draft, render, render, atoms_append, renderAtoms_append,
    String.ofList_append, Nat.zero_add]
  rfl

theorem concat_intersperse (f s : Fragment) (fs : List Fragment) :
    concat ((f :: fs).intersperse s) = f ++ concat (fs.map (s ++ ·)) := by
  induction fs generalizing f with
  | nil => exact concat_cons f []
  | cons g fs ih =>
    rw [List.intersperse_cons_cons, concat_cons, concat_cons, ih, List.map_cons, concat_cons,
      append_assoc]

theorem join_eq (separator : String) (fs : List Fragment) :
    join separator fs =
      if fs.isEmpty then none else some (concat (fs.intersperse (text separator))) := by
  cases fs with
  | nil => rfl
  | cons f fs => exact congrArg some (concat_intersperse f (text separator) fs).symm

/-- A join holds its parts with the separator between them. -/
theorem atoms_join {separator : String} {fs : List Fragment} {joined : Fragment}
    (h : join separator fs = some joined) :
    joined.atoms = (text separator).atoms.intercalate (fs.map atoms) := by
  cases fs with
  | nil => cases h
  | cons f fs =>
    cases h
    rw [← concat_intersperse, atoms_concat, List.flatMap_def, map_intersperse]
    rfl

/-- Joined drafts are those that were given, with the separator between them. -/
theorem join_draft_eq (separator : String) (fs : List Fragment) :
    Draft.join separator (fs.map draft) =
      if fs.isEmpty then none
      else some (.concat ((fs.map draft).intersperse (Draft.push {} separator))) := by
  have hseparator : Draft.push {} separator = (text separator).draft := push_draft empty separator
  rw [join_draft, join_eq, hseparator, ← map_intersperse, concat_draft]
  split <;> rfl

end Fragment

end MarketQuery.Sql
