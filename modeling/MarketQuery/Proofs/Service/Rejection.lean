import MarketQuery.Proofs.Query.Accepted
import MarketQuery.Proofs.Service.Candidates
import MarketQuery.Proofs.Service.Dialogue
import MarketQuery.Proofs.Sql.Replay

namespace MarketQuery.Service

open Filters (Violation requireEntries)
open Query (Compiler)

theorem requireEntries_cases (field : Filters.ListField) (values : List String) :
    requireEntries field values = .ok () ∨
      requireEntries field values = .error (.blankEntry field) ∧
        ∃ s ∈ values, Text.isBlank s = true := by
  rw [requireEntries]
  split
  · exact .inr ⟨rfl, List.any_eq_true.mp ‹_›⟩
  · exact .inl rfl

/-- Ids from a ranking do not make up for a violation; at most a blank one is found before it. -/
theorem check_withRankedIds {f : Filters.Catalog} {v : Violation} (hids : f.ids = [])
    (h : f.check = .error v) (cs : List Candidate) :
    (withRankedIds f cs).check = .error v ∨
      (withRankedIds f cs).check = .error (.blankEntry .ids) ∧
        ∃ c ∈ cs, Text.isBlank c.id = true := by
  have hnone : requireEntries .ids f.ids = .ok () := by rw [hids]; rfl
  have hranked : (withRankedIds f cs).check = (do
      requireEntries .creator f.creators
      requireEntries .contractAddresses f.contractAddresses
      requireEntries .ids (withRankedIds f cs).ids
      requireEntries .urns f.urns
      Filters.requirePrices f.minPrice f.maxPrice
      if Filters.isSet f.onlyListing && Filters.isSet f.onlyMinting then
        .error .listingAndMinting else .ok ()) := rfl
  rw [Filters.Catalog.check, hnone] at h
  rw [hranked]
  rcases requireEntries_cases .creator f.creators with hc | ⟨hc, -⟩ <;> rw [hc] at h ⊢
  · rcases requireEntries_cases .contractAddresses f.contractAddresses with hc | ⟨hc, -⟩ <;>
      rw [hc] at h ⊢
    · rcases requireEntries_cases .ids (withRankedIds f cs).ids with hc | ⟨hc, s, hs, hblank⟩ <;>
        rw [hc]
      · exact .inl h
      · obtain ⟨c, hc, rfl⟩ := List.mem_map.mp (mem_withRankedIds.mp hs)
        exact .inr ⟨rfl, c, hc, hblank⟩
    · exact .inl h
  · exact .inl h

theorem catalog_of_not_searching (c : Compiler) {f : Filters.Catalog}
    (hs : f.searchesInline = false) : catalog c f = list c f := by
  rw [catalog, hs, if_neg Bool.false_ne_true]

/-- A violation that is found before a statement is made is answered without a question. -/
theorem run_list_of_violation {c : Compiler} {f : Filters.Catalog} {v : Violation}
    (h : f.check = .error v) (replies : List Reply) :
    (list c f).run replies = ⟨.error (.ofViolation v), [], replies⟩ := by
  rw [list, Compiler.catalog, Query.Catalog.statement, h]
  rfl

/-- A request that does not search is turned down at once. -/
theorem run_catalog_of_not_searching (c : Compiler) {f : Filters.Catalog} {v : Violation}
    (h : f.check = .error v) (hs : f.searchesInline = false) (replies : List Reply) :
    (catalog c f).run replies = ⟨.error (.ofViolation v), [], replies⟩ := by
  rw [catalog_of_not_searching c hs, run_list_of_violation h]

/-- A search that has still to be ranked can be ranked, whatever else is wrong with the request. -/
theorem exists_search (c : Compiler) {f : Filters.Catalog} (h : f.searchesInline = true) :
    ∃ s, c.search f = .ok s := by
  rw [Filters.Catalog.searchesInline, Bool.and_eq_true, List.isEmpty_iff] at h
  obtain ⟨term, hterm⟩ := Option.isSome_iff_exists.mp h.1
  exact ⟨_, Query.Ranking.statement_eq_ok_iff.mpr ⟨term, hterm, by rw [h.2]; rfl, rfl⟩⟩

/-- Candidates are read from a reply that holds candidates. A failure of the database is passed on
as it is, and rows are no candidates. -/
theorem run_fetchCandidates {s : Sql.Statement} (h : s.isVacuous = false) (replies : List Reply) :
    (Storage.fetchCandidates s).run replies =
      ⟨match Dialogue.nextReply replies with
        | .failure text => .error (.database text)
        | .rows _ => .error (.decode "id" "Expected ranked candidates.")
        | .candidates cs => .ok cs, [⟨s.sql, s.params⟩], replies.tail⟩ := by
  rw [Storage.fetchCandidates, Sql.Statement.plain_eq h, Storage.run_fetch]
  cases Dialogue.nextReply replies <;> rfl

/-- A search asks for its candidates first, and what follows depends on the reply. -/
theorem run_catalog_of_search {c : Compiler} {f : Filters.Catalog} {s : Sql.Statement}
    (hs : f.searchesInline = true) (h : c.search f = .ok s) (replies : List Reply) :
    (catalog c f).run replies =
      match Dialogue.nextReply replies with
      | .failure text =>
        ⟨.error (.storage ("error returned from database: " ++ text)), [⟨s.sql, s.params⟩],
          replies.tail⟩
      | .rows _ =>
        ⟨.error (.storage "Failed to decode id: Expected ranked candidates."),
          [⟨s.sql, s.params⟩], replies.tail⟩
      | .candidates [] => ⟨.ok ⟨[], 0⟩, [⟨s.sql, s.params⟩], replies.tail⟩
      | .candidates cs =>
        let t := (list c (withRankedIds f cs)).run replies.tail
        ⟨t.result, ⟨s.sql, s.params⟩ :: t.questions, t.unused⟩ := by
  have hvacuous := Compiler.Compiles.not_vacuous (.inr (.inl ⟨f, h⟩))
  have hmessage : (StorageError.decode "id" "Expected ranked candidates.").message =
      "Failed to decode id: Expected ranked candidates." := by decide
  rw [catalog, hs, if_pos rfl, Dialogue.run_bind, search, h, run_answer_ok,
    run_fetchCandidates hvacuous]
  cases Dialogue.nextReply replies with
  | failure text => rfl
  | rows rows => exact hmessage ▸ rfl
  | candidates cs => cases cs <;> rfl

/-- What becomes of a search that is turned down, by the reply to its ranking. -/
def Outcome (v : Violation) : Reply → Except ServiceError Page → Prop
  | .failure text, r => r = .error (.storage ("error returned from database: " ++ text))
  | .rows _, r => r = .error (.storage "Failed to decode id: Expected ranked candidates.")
  | .candidates [], r => r = .ok ⟨[], 0⟩
  | .candidates cs, r => r = .error (.ofViolation v) ∨
      r = .error (.ofViolation (.blankEntry .ids)) ∧ ∃ c ∈ cs, Text.isBlank c.id = true

/-- A search is ranked first, by the one question that is asked. -/
theorem run_catalog_of_searching (c : Compiler) {f : Filters.Catalog} {v : Violation}
    (h : f.check = .error v) (hs : f.searchesInline = true) :
    ∃ s q, c.search f = .ok s ∧ s.plain = some q ∧ ∀ replies,
      ∃ r, (catalog c f).run replies = ⟨r, [q], replies.tail⟩ ∧
        Outcome v (Dialogue.nextReply replies) r := by
  obtain ⟨s, hsearch⟩ := exists_search c hs
  have hplain := Sql.Statement.plain_eq (Compiler.Compiles.not_vacuous (.inr (.inl ⟨f, hsearch⟩)))
  refine ⟨s, _, hsearch, hplain, ?_⟩
  intro replies
  rw [run_catalog_of_search hs hsearch]
  -- Only a ranking with candidates gets as far as the check.
  cases Dialogue.nextReply replies with
  | failure text => exact ⟨_, rfl, rfl⟩
  | rows rows => exact ⟨_, rfl, rfl⟩
  | candidates cs =>
    cases cs with
    | nil => exact ⟨_, rfl, rfl⟩
    | cons x xs =>
      have hids : f.ids = [] := by
        rw [Filters.Catalog.searchesInline, Bool.and_eq_true] at hs
        exact List.isEmpty_iff.mp hs.2
      rcases check_withRankedIds hids h (x :: xs) with hw | ⟨hw, hblank⟩ <;>
        simp only [run_list_of_violation hw]
      · exact ⟨_, rfl, .inl rfl⟩
      · exact ⟨_, rfl, .inr ⟨rfl, hblank⟩⟩

/-- An unacceptable request is turned down without a question exactly if it is not a search that has
still to be ranked. Such a search has its ranking done, and what it is answered depends on that: it
may fail, and without candidates it is an empty page. -/
theorem rejected_before_querying_iff (c : Compiler) {f : Filters.Catalog} {v : Violation}
    (h : f.check = .error v) :
    ((∀ replies, (catalog c f).run replies = ⟨.error (.ofViolation v), [], replies⟩) ↔
      f.searchesInline = false) ∧
    (f.searchesInline = true → ∃ s q, c.search f = .ok s ∧ s.plain = some q ∧ ∀ replies,
      ∃ r, (catalog c f).run replies = ⟨r, [q], replies.tail⟩ ∧
        Outcome v (Dialogue.nextReply replies) r) := by
  refine ⟨⟨fun hall => ?_, run_catalog_of_not_searching c h⟩, run_catalog_of_searching c h⟩
  apply Bool.eq_false_iff.mpr
  intro hs
  obtain ⟨s, q, -, -, hrun⟩ := run_catalog_of_searching c h hs
  obtain ⟨r, hr, -⟩ := hrun []
  have hquestions := congrArg Dialogue.Transcript.questions ((hall []).symm.trans hr)
  cases hquestions

/-- Items that are both listed only and minted only are asked for, without a search. -/
theorem rejected_before_querying_iff_listing_and_minting :
    (catalog ⟨{}, []⟩ { onlyListing := some true, onlyMinting := some true }).run [.rows []] =
      ⟨.error (.ofViolation .listingAndMinting), [], [.rows []]⟩ := by
  obtain ⟨hiff, -⟩ := rejected_before_querying_iff ⟨{}, []⟩ (v := .listingAndMinting)
    (f := { onlyListing := some true, onlyMinting := some true }) rfl
  exact hiff.mpr rfl [.rows []]

/-- With a search that finds no candidates, the same request is answered by an empty page, and a
question has been asked. -/
theorem unranked_search_not_rejected :
    let f : Filters.Catalog :=
      { search := some "hat", onlyListing := some true, onlyMinting := some true }
    f.check = .error .listingAndMinting ∧
      ∃ q, (catalog ⟨{}, []⟩ f).run [.candidates []] = ⟨.ok {}, [q], []⟩ := by
  intro f
  have hsearch : f.searchesInline = true := by decide +kernel
  obtain ⟨s, q, -, -, hrun⟩ :=
    run_catalog_of_searching ⟨{}, []⟩ (v := .listingAndMinting) (f := f) rfl hsearch
  obtain ⟨r, hr, hout⟩ := hrun [.candidates []]
  have hpage : r = .ok ⟨[], 0⟩ := hout
  rw [hpage] at hr
  exact ⟨rfl, q, hr⟩

end MarketQuery.Service
