import MarketQuery.Proofs.Filters.Check
import MarketQuery.Proofs.Query.Catalog.Ranked
import MarketQuery.Proofs.Service.Rejection
import MarketQuery.Proofs.Sql.Replay

namespace MarketQuery

open Query (Compiler)
open Query.Catalog (TakesRanking)
open Sql (Batch Statement)

/-- A statement around which each row is made one JSON object. -/
def Sql.Statement.framed (s : Statement) : Batch :=
  ⟨"SELECT to_jsonb(catalog_rows) AS row FROM (\n" ++ s.sql ++ "\n) AS catalog_rows", s.params⟩

namespace Storage

/-- Rows are read from a reply that holds rows. A failure of the database is passed on as it is, and
candidates are no rows. -/
theorem run_fetchRows {s : Statement} (h : s.isVacuous = false) (replies : List Reply) :
    (fetchRows s).run replies =
      ⟨match Dialogue.nextReply replies with
        | .failure text => .error (.database text)
        | .candidates _ => .error (.decode "row" "Expected one column.")
        | .rows rows => .ok rows, [s.framed], replies.tail⟩ := by
  rw [fetchRows, Statement.jsonRows_eq h, run_fetch]
  cases Dialogue.nextReply replies <;> rfl

/-- A page is read from one reply: its rows, and the total that the first of them carries. -/
theorem run_fetchPage {s : Statement} (h : s.isVacuous = false) (column : String)
    (replies : List Reply) :
    (fetchPage s column).run replies =
      ⟨match Dialogue.nextReply replies with
        | .failure text => .error (.database text)
        | .candidates _ => .error (.decode "row" "Expected one column.")
        | .rows rows => (pageTotal rows column).map (⟨rows, ·⟩), [s.framed], replies.tail⟩ := by
  rw [fetchPage, Dialogue.run_bind, run_fetchRows h]
  cases Dialogue.nextReply replies <;> rfl

/-- The integers that fit a word are those that an `Int64` can be. -/
theorem isWord64_iff {z : Int} : isWord64 z = true ↔ ∃ n : Int64, z = n.toInt := by
  rw [isWord64, Bool.and_eq_true, decide_eq_true_eq, decide_eq_true_eq]
  constructor
  · intro h
    exact ⟨Int64.ofInt z, (Int64.toInt_ofInt_of_le h.1 (Int.lt_add_one_of_le h.2)).symm⟩
  · rintro ⟨n, rfl⟩
    exact ⟨n.minValue_le_toInt, n.toInt_le⟩

/-- The total is what the first row has in the column, if that is an integer; what else may be found
there is each refused in its own words. -/
theorem pageTotal_cases (first : Json.Value) (rest : List Json.Value) (column : String) :
    (∃ n : Int64, first.member? column = some (.number (.int n.toInt)) ∧
      pageTotal (first :: rest) column = .ok n.toInt) ∨
    (first.member? column = none ∧ pageTotal (first :: rest) column =
      .error (.decode column "Column is missing from the row.")) ∨
    (∃ x, first.member? column = some (.number x) ∧ (∀ n : Int64, x ≠ .int n.toInt) ∧
      pageTotal (first :: rest) column =
        .error (.decode column (Json.writeNumber x ++ " is not an integer."))) ∨
    (∃ v, first.member? column = some v ∧ (∀ x, v ≠ .number x) ∧
      pageTotal (first :: rest) column =
        .error (.decode column ("Expected a number, got " ++ v.compact ++ "."))) := by
  unfold pageTotal
  dsimp only
  cases hv : first.member? column with
  | none => exact .inr (.inl ⟨rfl, rfl⟩)
  | some v =>
    cases v with
    | number x =>
      cases x with
      | int z =>
        by_cases hz : isWord64 z = true
        · obtain ⟨n, rfl⟩ := isWord64_iff.mp hz
          exact .inl ⟨n, rfl, if_pos hz⟩
        · refine .inr (.inr (.inl ⟨_, rfl, ?_, if_neg hz⟩))
          intro n hn
          cases hn
          exact hz (isWord64_iff.mpr ⟨n, rfl⟩)
      | float x => exact .inr (.inr (.inl ⟨_, rfl, by simp, rfl⟩))
    | null | bool | text | list | record | unreadable =>
      exact .inr (.inr (.inr ⟨_, rfl, by simp, rfl⟩))

end Storage

namespace Service

/-- What a question for items is answered with, by the reply to it. A page has the rows of the reply
and the number that the first of them carries. -/
inductive Served : Reply → Except ServiceError Page → Prop where
  | failure (text : String) :
      Served (.failure text) (.error (.storage ("error returned from database: " ++ text)))
  | candidates (cs : List Candidate) :
      Served (.candidates cs) (.error (.storage "Failed to decode row: Expected one column."))
  | empty : Served (.rows []) (.ok ⟨[], 0⟩)
  | page (first : Json.Value) (rest : List Json.Value) (n : Int64)
      (total : first.member? "total_rows" = some (.number (.int n.toInt))) :
      Served (.rows (first :: rest)) (.ok ⟨first :: rest, n.toInt⟩)
  | missing (first : Json.Value) (rest : List Json.Value)
      (total : first.member? "total_rows" = none) :
      Served (.rows (first :: rest))
        (.error (.storage "Failed to decode total_rows: Column is missing from the row."))
  | noInteger (first : Json.Value) (rest : List Json.Value) (x : Decimal.Number)
      (total : first.member? "total_rows" = some (.number x))
      (unfit : ∀ n : Int64, x ≠ .int n.toInt) :
      Served (.rows (first :: rest))
        (.error (.storage
          ("Failed to decode total_rows: " ++ Json.writeNumber x ++ " is not an integer.")))
  | noNumber (first : Json.Value) (rest : List Json.Value) (v : Json.Value)
      (total : first.member? "total_rows" = some v) (unfit : ∀ x, v ≠ .number x) :
      Served (.rows (first :: rest))
        (.error (.storage
          ("Failed to decode total_rows: Expected a number, got " ++ v.compact ++ ".")))

/-- A reply leaves no choice of what to answer. -/
theorem Served.unique {reply : Reply} {r r' : Except ServiceError Page} (h : Served reply r)
    (h' : Served reply r') : r = r' := by
  cases h <;> cases h' <;> grind

/-- A page is only made of rows, and a reply that makes none is blamed on the database. -/
theorem Served.ne_invalidRequest {reply : Reply} {r : Except ServiceError Page}
    (h : Served reply r) (detail : String) : r ≠ .error (.invalidRequest detail) := by
  cases h <;> simp

theorem message_decode_total (detail : String) :
    (StorageError.decode Storage.catalogTotal detail).message =
      "Failed to decode total_rows: " ++ detail := by
  have hcolumn : "Failed to decode " ++ "total_rows" ++ ": " = "Failed to decode total_rows: " := by
    decide
  exact congrArg (· ++ detail) hcolumn

/-- Whatever rows there are, what is read of them is served. -/
theorem served_rows (rows : List Json.Value) :
    Served (.rows rows)
      (((Storage.pageTotal rows Storage.catalogTotal).map (Page.mk rows)).mapError .ofStorage) := by
  cases rows with
  | nil => exact .empty
  | cons first rest =>
    rcases Storage.pageTotal_cases first rest Storage.catalogTotal with
      ⟨n, hv, ht⟩ | ⟨hv, ht⟩ | ⟨x, hv, hx, ht⟩ | ⟨v, hv, hx, ht⟩
    all_goals rw [ht]
    · exact .page first rest n hv
    · have hmessage : "Failed to decode total_rows: " ++ "Column is missing from the row." =
          "Failed to decode total_rows: Column is missing from the row." := by decide
      have h := Served.missing first rest hv
      rw [← hmessage, ← message_decode_total] at h
      exact h
    · have h := Served.noInteger first rest x hv hx
      rw [String.append_assoc, ← message_decode_total] at h
      exact h
    · have hgot : "Failed to decode total_rows: " ++ "Expected a number, got " =
          "Failed to decode total_rows: Expected a number, got " := by decide
      have h := Served.noNumber first rest v hv hx
      rw [← hgot, String.append_assoc, String.append_assoc, ← String.append_assoc,
        ← message_decode_total] at h
      exact h

/-- Items are asked for by one question, and the reply to it is served. -/
theorem run_list {c : Compiler} {f : Filters.Catalog} {s : Statement} (h : c.catalog f = .ok s)
    (replies : List Reply) :
    ∃ r, Served (Dialogue.nextReply replies) r ∧
      (list c f).run replies = ⟨r, [s.framed], replies.tail⟩ := by
  have hvacuous := Compiler.Compiles.not_vacuous (.inl ⟨f, h⟩)
  rw [list, h, run_answer_ok, Storage.run_fetchPage hvacuous]
  cases Dialogue.nextReply replies with
  | failure text => exact ⟨_, .failure text, rfl⟩
  | candidates cs =>
    have hmessage : (StorageError.decode "row" "Expected one column.").message =
        "Failed to decode row: Expected one column." := by decide
    exact ⟨_, .candidates cs, hmessage ▸ rfl⟩
  | rows rows => exact ⟨_, served_rows rows, rfl⟩

/-- The ids of candidates are as good as those of a request, if none of them is blank. -/
theorem check_withRankedIds_eq_ok {f : Filters.Catalog} (h : f.check = .ok ())
    {cs : List Candidate} (hcs : ∀ x ∈ cs, Text.isBlank x.id = false) :
    (withRankedIds f cs).check = .ok () := by
  rw [Filters.Catalog.check_eq_ok_iff] at h ⊢
  obtain ⟨hcreator, hcontracts, -, hrest⟩ := h
  refine ⟨hcreator, hcontracts, Filters.requireEntries_eq_ok_iff.mpr fun id hid => ?_, hrest⟩
  obtain ⟨x, hx, rfl⟩ := List.mem_map.mp (mem_withRankedIds.mp hid)
  exact hcs x hx

/-- Requests that have candidates to choose from need no ranking any more. -/
theorem searchesInline_withRankedIds (f : Filters.Catalog) {cs : List Candidate} (h : cs ≠ []) :
    (withRankedIds f cs).searchesInline = false := by
  have hids : (withRankedIds f cs).ids.isEmpty = false :=
    List.isEmpty_eq_false_iff.mpr (mt withRankedIds_eq_nil_iff.mp h)
  rw [Filters.Catalog.searchesInline, hids, Bool.and_false]

/-- Items are asked for by one question, if the request is acceptable and needs no ranking. -/
theorem exists_listing (c : Compiler) {f : Filters.Catalog} (hcheck : f.check = .ok ())
    (hs : f.searchesInline = false) :
    ∃ l, c.catalog f = .ok l ∧ TakesRanking c.schemas c.marketplaces f l ∧ ∀ replies,
      ∃ r, Served (Dialogue.nextReply replies) r ∧
        (list c f).run replies = ⟨r, [l.framed], replies.tail⟩ := by
  have h : c.catalog f = .ok ⟨Query.Catalog.body c.schemas c.marketplaces f⟩ :=
    Query.Catalog.statement_eq_ok_iff.mpr ⟨hcheck, rfl⟩
  exact ⟨_, h, Query.Catalog.takesRanking hcheck hs, run_list h⟩

/-- An acceptable request leads to at most two questions. A search that has still to be ranked asks
for its candidates, with the ranking as it is. If the database fails, or there are none, nothing
more is asked; otherwise the items are asked for whose ids these are. Any other request asks for its
items at once. The last question never ranks again, and its reply is served. -/
theorem search_is_ranked_before_listing (c : Compiler) {f : Filters.Catalog}
    (hcheck : f.check = .ok ()) :
    (f.searchesInline = true ↔
      (∃ t, f.search = some t ∧ Text.isBlank t = false) ∧ f.ids = []) ∧
    (f.searchesInline = true → ∃ s, c.search f = .ok s ∧ ∀ replies,
      let t := (catalog c f).run replies
      match Dialogue.nextReply replies with
      | .failure text =>
        t = ⟨.error (.storage ("error returned from database: " ++ text)), [⟨s.sql, s.params⟩],
          replies.tail⟩
      | .rows _ =>
        t = ⟨.error (.storage "Failed to decode id: Expected ranked candidates."),
          [⟨s.sql, s.params⟩], replies.tail⟩
      | .candidates [] => t = ⟨.ok ⟨[], 0⟩, [⟨s.sql, s.params⟩], replies.tail⟩
      | .candidates cs => (∀ x ∈ cs, Text.isBlank x.id = false) →
        let g : Filters.Catalog := { f with ids := (cs.map Candidate.id).eraseDups }
        ∃ l r, c.catalog g = .ok l ∧ TakesRanking c.schemas c.marketplaces g l ∧
          Served (Dialogue.nextReply replies.tail) r ∧
          t = ⟨r, [⟨s.sql, s.params⟩, l.framed], replies.tail.tail⟩) ∧
    (f.searchesInline = false → ∃ l, c.catalog f = .ok l ∧
      TakesRanking c.schemas c.marketplaces f l ∧ ∀ replies,
        ∃ r, Served (Dialogue.nextReply replies) r ∧
          (catalog c f).run replies = ⟨r, [l.framed], replies.tail⟩) := by
  refine ⟨Query.Catalog.searchesInline_iff, fun hs => ?searching, fun hs => ?listing⟩
  case searching =>
    obtain ⟨s, h⟩ := exists_search c hs
    refine ⟨s, h, ?_⟩
    intro replies
    rw [run_catalog_of_search hs h replies]
    cases Dialogue.nextReply replies with
    | failure text => rfl
    | rows rows => rfl
    | candidates cs =>
      cases cs with
      | nil => rfl
      | cons x cs =>
        intro t hcs g
        -- The request passes its check a second time because no id that was found is blank.
        obtain ⟨l, hl, htakes, hrun⟩ := exists_listing c (check_withRankedIds_eq_ok hcheck hcs)
          (searchesInline_withRankedIds f (List.cons_ne_nil x cs))
        have hg : withRankedIds f (x :: cs) = g := withRankedIds_eq f (x :: cs)
        obtain ⟨r, hr, hrun⟩ := hrun replies.tail
        refine ⟨l, r, hg ▸ hl, hg ▸ htakes, hr, ?_⟩
        dsimp only [t]
        rw [hrun]
  case listing =>
    rw [catalog_of_not_searching c hs]
    exact exists_listing c hcheck hs

/-- A search that finds three candidates, two of them for the same item, and a page of two items. -/
theorem search_is_ranked_before_listing_hats :
    let c : Compiler := ⟨{}, ["0xa"]⟩
    let f : Filters.Catalog := { search := some " hat " }
    let cs : List Candidate :=
      [⟨"b", 0.9, "tag", "hat"⟩, ⟨"a", 0.7, "name", "hat"⟩, ⟨"b", 0.4, "utility", ""⟩]
    let b : Json.Value := .record [("id", .text "b"), ("total_rows", .int 2)]
    let a : Json.Value := .record [("id", .text "a")]
    f.check = .ok () ∧ ∃ s l, c.search f = .ok s ∧ c.catalog { f with ids := ["b", "a"] } = .ok l ∧
      (catalog c f).run [.candidates cs, .rows [b, a]] =
        ⟨.ok ⟨[b, a], 2⟩, [⟨s.sql, s.params⟩, l.framed], []⟩ := by
  intro c f cs b a
  have hsearch : f.searchesInline = true := by decide +kernel
  obtain ⟨-, hsearching, -⟩ := search_is_ranked_before_listing c (f := f) rfl
  obtain ⟨s, hs, hrun⟩ := hsearching hsearch
  obtain ⟨l, r, hl, -, hr, hrun⟩ := hrun [.candidates cs, .rows [b, a]] (by decide +kernel)
  have hids : (cs.map Candidate.id).eraseDups = ["b", "a"] := by decide +kernel
  have hpage : r = .ok ⟨[b, a], 2⟩ := hr.unique (.page b [a] 2 rfl)
  rw [hids] at hl
  rw [hpage] at hrun
  exact ⟨rfl, s, l, hs, hl, hrun⟩

end Service

end MarketQuery
