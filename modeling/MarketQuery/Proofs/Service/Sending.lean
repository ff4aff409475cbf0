import MarketQuery.Proofs.Query.Accepted
import MarketQuery.Proofs.Sql.Replay
import MarketQuery.Storage

namespace MarketQuery.Storage

open Query (Compiler)
open Sql (Batch Segment Statement)

theorem isVacuous_iff {s : Statement} :
    s.isVacuous = true ↔ ∀ ch ∈ s.sql.toList, Text.isSpace ch = true := by
  rw [Statement.isVacuous, Text.isBlank, List.all_eq_true]

/-- Statements in one batch stand there as they were rendered, each with its numbers raised by what
was bound before it. In the frame of JSON rows a statement stands as it is, unless it is blank. -/
theorem batches_hold_what_was_rendered :
    (∀ (initial : String) (ss : List Statement),
      ss.foldl Batch.pushStatement (.start initial) =
        ⟨initial ++ Segment.write 0 0 (ss.flatMap Statement.segments),
          ss.flatMap Statement.params⟩) ∧
    (∀ (initial : String) (ss : List Statement) (s : Statement),
      let b := ss.foldl Batch.pushStatement (.start initial)
      b.pushStatement s =
        ⟨b.sql ++ s.raised (ss.flatMap Statement.params).length, b.binds ++ s.params⟩) ∧
    (∀ s : Statement, s.raised 0 = s.sql) ∧
    (∀ s : Statement,
      (s.jsonRows = none ↔ ∀ ch ∈ s.sql.toList, Text.isSpace ch = true) ∧
      (s.jsonRows = none → fetchRows s = .done (.error .vacuous)) ∧
      (s.jsonRows ≠ none → s.jsonRows =
        some ⟨Statement.rowsPrefix ++ s.sql ++ Statement.rowsSuffix, s.params⟩)) ∧
    (∀ (c : Compiler) (s : Statement), c.Compiles s → s.jsonRows =
      some ⟨Statement.rowsPrefix ++ s.sql ++ Statement.rowsSuffix, s.params⟩) := by
  refine ⟨Batch.foldl_pushStatement_start, ?next, Statement.raised_zero, ?frame, ?compiled⟩
  case next =>
    intro initial ss s b
    have hbinds : b.binds = ss.flatMap Statement.params :=
      congrArg Batch.binds (Batch.foldl_pushStatement_start initial ss)
    rw [Batch.pushStatement_eq, hbinds]
  case frame =>
    intro s
    refine ⟨Statement.jsonRows_eq_none_iff.trans isVacuous_iff, fun h => ?_, fun h => ?_⟩
    · rw [fetchRows, h]
      rfl
    · have hv : s.isVacuous = false :=
        Bool.eq_false_iff.mpr fun hv => h (Statement.jsonRows_eq_none_iff.mpr hv)
      exact Statement.jsonRows_eq hv
  case compiled => exact fun c s h => Statement.jsonRows_eq h.not_vacuous

/-- The page of epic items, and a statement of nothing but a new line. -/
theorem batches_hold_what_was_rendered_epic :
    let c : Compiler := ⟨{}, ["0xa"]⟩
    let s : Statement := ⟨Query.Catalog.body c.schemas c.marketplaces { rarities := [.epic] }⟩
    (Statement.mk (.text "\n")).jsonRows = none ∧
      c.Compiles s ∧ s.jsonRows =
        some ⟨Statement.rowsPrefix ++ s.sql ++ Statement.rowsSuffix, s.params⟩ := by
  intro c s
  obtain ⟨-, -, -, hframe, hcompiled⟩ := batches_hold_what_was_rendered
  have h : c.Compiles s :=
    .inl ⟨{ rarities := [.epic] }, Query.Catalog.statement_eq_ok_iff.mpr ⟨rfl, rfl⟩⟩
  exact ⟨(hframe _).1.mpr (isVacuous_iff.mp (by decide +kernel)), h, hcompiled c s h⟩

end MarketQuery.Storage
