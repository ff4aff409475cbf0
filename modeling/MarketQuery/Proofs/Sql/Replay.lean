import MarketQuery.Proofs.Sql.Placeholders
import MarketQuery.Sql.Batch

namespace MarketQuery.Sql

namespace Fragment

theorem renderAtoms_chars (n : Nat) (cs : List Char) : renderAtoms n (cs.map .char) = cs := by
  induction cs with
  | nil => rfl
  | cons c cs ih => rw [List.map_cons, renderAtoms, ih]

/-- The second part is rendered with the values of the first before it. -/
theorem renderAtoms_append (n : Nat) (xs ys : List Atom) :
    renderAtoms n (xs ++ ys) =
      renderAtoms n xs ++ renderAtoms (n + (xs.filterMap Atom.param?).length) ys := by
  induction xs generalizing n with
  | nil => rfl
  | cons x xs ih =>
    cases x with
    | char c =>
      simp only [List.cons_append, renderAtoms, List.filterMap_cons, Atom.param?]
      rw [ih]
    | param p =>
      simp only [List.cons_append, renderAtoms, List.filterMap_cons, Atom.param?,
        List.length_cons, List.append_assoc]
      rw [ih, Nat.add_right_comm, Nat.add_assoc]

end Fragment

namespace Segment

def param? : Segment → Option Param
  | .sql _ => none
  | .param p => some p

/-- The text of segments with `k` values before them. Each value is numbered by its place, raised by
`n`. -/
def write (n k : Nat) : List Segment → String
  | [] => ""
  | .sql s :: r => s ++ write n k r
  | .param _ :: r => "$" ++ toString (k + 1 + n) ++ write n (k + 1) r

theorem params_atoms (segs : List Segment) :
    (segs.flatMap atoms).filterMap Atom.param? = segs.filterMap param? := by
  induction segs with
  | nil => rfl
  | cons s segs ih =>
    rw [List.flatMap_cons, List.filterMap_append, ih]
    cases s with
    | sql t =>
      rw [atoms, Atom.filterMap_param?_chars, List.nil_append, List.filterMap_cons_none rfl]
    | param p => rfl

theorem write_eq (n k : Nat) (segs : List Segment) :
    write n k segs = String.ofList (Fragment.renderAtoms (k + n) (segs.flatMap atoms)) := by
  induction segs generalizing k with
  | nil => rfl
  | cons s segs ih =>
    apply String.toList_inj.mp
    cases s with
    | sql t =>
      rw [write, ih, List.flatMap_cons, atoms, Fragment.renderAtoms_append,
        Fragment.renderAtoms_chars, Atom.filterMap_param?_chars]
      simp
    | param p =>
      rw [write, ih, List.flatMap_cons, atoms, List.singleton_append, Fragment.renderAtoms,
        Nat.add_right_comm k 1 n]
      simp [Nat.toString_eq_repr, Nat.toList_repr]

end Segment

theorem Fragment.params_segments (f : Fragment) :
    f.segments.filterMap Segment.param? = f.params := by
  rw [← Segment.params_atoms, atoms_segments, params]

def Statement.raised (n : Nat) (s : Statement) : String := Segment.write n 0 s.segments

/-- The first statement of a batch stands there as it was rendered. -/
theorem Statement.raised_zero (s : Statement) : s.raised 0 = s.sql := by
  rw [raised, Segment.write_eq, segments, Fragment.atoms_segments]
  rfl

namespace Batch

/-- Segments go on with the numbers where the batch stands. -/
theorem foldl_pushSegment (b : Batch) (segs : List Segment) :
    segs.foldl pushSegment b =
      ⟨b.sql ++ Segment.write b.binds.length 0 segs, b.binds ++ segs.filterMap Segment.param?⟩ := by
  have hk : ∀ (k n : Nat) (b : Batch), b.binds.length = k + n →
      segs.foldl pushSegment b =
        ⟨b.sql ++ Segment.write n k segs, b.binds ++ segs.filterMap Segment.param?⟩ := by
    induction segs with
    | nil => simp [Segment.write]
    | cons s segs ih =>
      intro k n b hb
      cases s with
      | sql t =>
        rw [List.foldl_cons, ih k n (b.pushSegment (.sql t)) hb, List.filterMap_cons_none rfl]
        simp [pushSegment, push, Segment.write, String.append_assoc]
      | param p =>
        have hlen : (b.pushSegment (.param p)).binds.length = k + 1 + n := by
          simp [pushSegment, pushBind, hb]
          omega
        have hsql : (b.pushSegment (.param p)).sql = b.sql ++ "$" ++ toString (k + 1 + n) := by
          rw [← hlen]
          rfl
        rw [List.foldl_cons, ih (k + 1) n _ hlen, hsql]
        simp [pushSegment, pushBind, Segment.write, Segment.param?, String.append_assoc]
  exact hk 0 b.binds.length b (Nat.zero_add _).symm

/-- A statement adds its text, with its numbers raised, and its values. -/
theorem pushStatement_eq (b : Batch) (s : Statement) :
    b.pushStatement s = ⟨b.sql ++ s.raised b.binds.length, b.binds ++ s.params⟩ := by
  rw [pushStatement, foldl_pushSegment, Statement.segments, Fragment.params_segments]
  rfl

theorem foldl_pushStatement (b : Batch) (ss : List Statement) :
    ss.foldl pushStatement b = (ss.flatMap Statement.segments).foldl pushSegment b := by
  induction ss generalizing b with
  | nil => rfl
  | cons s ss ih => rw [List.foldl_cons, ih, List.flatMap_cons, List.foldl_append, pushStatement]

/-- A batch holds its initial text and its statements, with all their values numbered in one row. -/
theorem foldl_pushStatement_start (initial : String) (ss : List Statement) :
    ss.foldl pushStatement (.start initial) =
      ⟨initial ++ Segment.write 0 0 (ss.flatMap Statement.segments),
        ss.flatMap Statement.params⟩ := by
  have hparams : (ss.flatMap Statement.segments).filterMap Segment.param? =
      ss.flatMap Statement.params := by
    rw [List.filterMap_flatMap]
    exact congrArg (ss.flatMap ·) (funext fun s => s.fragment.params_segments)
  rw [foldl_pushStatement, foldl_pushSegment, hparams]
  rfl

end Batch

namespace Statement

theorem plain_eq {s : Statement} (h : s.isVacuous = false) : s.plain = some ⟨s.sql, s.params⟩ := by
  rw [plain, h, if_neg Bool.false_ne_true, Batch.pushStatement_eq]
  simp [Batch.start, raised_zero]

theorem jsonRows_eq {s : Statement} (h : s.isVacuous = false) :
    s.jsonRows = some ⟨rowsPrefix ++ s.sql ++ rowsSuffix, s.params⟩ := by
  rw [jsonRows, h, if_neg Bool.false_ne_true, Batch.pushStatement_eq]
  simp [Batch.start, Batch.push, raised_zero]

/-- Nothing but a blank statement is left unsent. -/
theorem jsonRows_eq_none_iff {s : Statement} : s.jsonRows = none ↔ s.isVacuous = true := by
  rw [jsonRows]
  split <;> simp_all

end Statement

end MarketQuery.Sql
