import MarketQuery.Proofs.Service.Protocol

namespace MarketQuery.Service

open Query (Compiler)

theorem check_withRankedIds_of_blank {f : Filters.Catalog} (h : f.check = .ok ())
    {cs : List Candidate} (hblank : ∃ x ∈ cs, Text.isBlank x.id = true) :
    (withRankedIds f cs).check = .error (.blankEntry .ids) := by
  obtain ⟨hcreator, hcontracts, -⟩ := Filters.Catalog.check_eq_ok_iff.mp h
  have hids : Filters.requireEntries .ids (withRankedIds f cs).ids = .error (.blankEntry .ids) := by
    obtain ⟨x, hx, hblank⟩ := hblank
    have hid : x.id ∈ (withRankedIds f cs).ids :=
      mem_withRankedIds.mpr (List.mem_map_of_mem hx)
    exact if_pos (List.any_eq_true.mpr ⟨x.id, hid, hblank⟩)
  have hsame : (withRankedIds f cs).creators = f.creators := rfl
  have hcontracts' : (withRankedIds f cs).contractAddresses = f.contractAddresses := rfl
  rw [Filters.Catalog.check, hsame, hcontracts', hcreator, hcontracts, hids]
  rfl

/-- With a blank candidate, the items are not asked for. -/
theorem run_catalog_of_blank {c : Compiler} {f : Filters.Catalog} {s : Sql.Statement}
    (hcheck : f.check = .ok ()) (hs : f.searchesInline = true) (h : c.search f = .ok s)
    {replies : List Reply} {cs : List Candidate}
    (hcs : Dialogue.nextReply replies = .candidates cs)
    (hblank : ∃ x ∈ cs, Text.isBlank x.id = true) :
    (catalog c f).run replies =
      ⟨.error (.ofViolation (.blankEntry .ids)), [⟨s.sql, s.params⟩], replies.tail⟩ := by
  have hlist := run_list_of_violation (c := c) (check_withRankedIds_of_blank hcheck hblank)
  rw [run_catalog_of_search hs h, hcs]
  cases cs with
  | nil => simp at hblank
  | cons x cs => simp only [hlist]

/-- Without a blank candidate, only the database is blamed. -/
theorem result_ne_invalidRequest (c : Compiler) {f : Filters.Catalog} (hcheck : f.check = .ok ())
    {replies : List Reply}
    (h : f.searchesInline = true → ∀ cs, Dialogue.nextReply replies = .candidates cs →
      ∀ x ∈ cs, Text.isBlank x.id = false) (detail : String) :
    ((catalog c f).run replies).result ≠ .error (.invalidRequest detail) := by
  cases hs : f.searchesInline with
  | false =>
    obtain ⟨l, -, -, hrun⟩ := exists_listing c hcheck hs
    obtain ⟨r, hr, hrun⟩ := hrun replies
    rw [catalog_of_not_searching c hs, hrun]
    exact hr.ne_invalidRequest detail
  | true =>
    obtain ⟨s, hsearch⟩ := exists_search c hs
    rw [run_catalog_of_search hs hsearch]
    cases hreply : Dialogue.nextReply replies with
    | failure text => simp
    | rows rows => simp
    | candidates cs =>
      cases cs with
      | nil => simp
      | cons x cs =>
        obtain ⟨l, -, -, hrun⟩ := exists_listing c
          (check_withRankedIds_eq_ok hcheck (h hs _ hreply))
          (searchesInline_withRankedIds f (List.cons_ne_nil x cs))
        obtain ⟨r, hr, hrun⟩ := hrun replies.tail
        simp only [hrun]
        exact hr.ne_invalidRequest detail

/-- An acceptable request is called invalid exactly if it is ranked first and one of its candidates
has a blank id. That id is what the answer complains of, and nothing is asked after the ranking. -/
theorem called_invalid_iff_blank_candidate (c : Compiler) {f : Filters.Catalog}
    (hcheck : f.check = .ok ()) (replies : List Reply) :
    let t := (catalog c f).run replies
    ((∃ detail, t.result = .error (.invalidRequest detail)) ↔
      f.searchesInline = true ∧
        ∃ cs, Dialogue.nextReply replies = .candidates cs ∧
          ∃ x ∈ cs, Text.isBlank x.id = true) ∧
    ∀ detail, t.result = .error (.invalidRequest detail) →
      detail = (Filters.Violation.blankEntry .ids).message ∧
        ∃ s, c.search f = .ok s ∧ t.questions = [⟨s.sql, s.params⟩] ∧ t.unused = replies.tail := by
  intro t
  by_cases h : f.searchesInline = true ∧
    ∃ cs, Dialogue.nextReply replies = .candidates cs ∧ ∃ x ∈ cs, Text.isBlank x.id = true
  · obtain ⟨hs, cs, hcs, hblank⟩ := h
    obtain ⟨s, hsearch⟩ := exists_search c hs
    have ht : t = ⟨_, _, _⟩ := run_catalog_of_blank hcheck hs hsearch hcs hblank
    rw [ht]
    refine ⟨⟨fun _ => ⟨hs, cs, hcs, hblank⟩, fun _ => ⟨_, rfl⟩⟩, fun detail hd => ?_⟩
    cases hd
    exact ⟨rfl, s, hsearch, rfl, rfl⟩
  · have hne (detail : String) : t.result ≠ .error (.invalidRequest detail) := by
      refine result_ne_invalidRequest c hcheck (fun hs cs hcs x hx => ?_) detail
      exact Bool.eq_false_iff.mpr fun hb => h ⟨hs, cs, hcs, x, hx, hb⟩
    exact ⟨⟨fun ⟨detail, hd⟩ => absurd hd (hne detail), fun hblank => absurd hblank h⟩,
      fun detail hd => absurd hd (hne detail)⟩

/-- The request for hats is acceptable, and called invalid for a candidate with a blank id. -/
theorem called_invalid_iff_blank_candidate_hat :
    let f : Filters.Catalog := { search := some "hat" }
    f.check = .ok () ∧
      ∃ detail, ((catalog ⟨{}, []⟩ f).run [.candidates [⟨" ", 0.9, "tag", "hat"⟩]]).result =
        .error (.invalidRequest detail) := by
  intro f
  have hs : f.searchesInline = true := by decide +kernel
  obtain ⟨hiff, -⟩ := called_invalid_iff_blank_candidate ⟨{}, []⟩ (f := f) rfl
    [.candidates [⟨" ", 0.9, "tag", "hat"⟩]]
  exact ⟨rfl, hiff.mpr ⟨hs, _, rfl, _, List.mem_singleton_self _, by decide⟩⟩

/-- A request that its check accepts can be called invalid for what the database has found. -/
theorem not_only_storage_is_blamed :
    let f : Filters.Catalog := { search := some "hat" }
    let replies : List Reply := [.candidates [⟨" ", 0.9, "tag", "hat"⟩]]
    f.check = .ok () ∧ ((catalog ⟨{}, []⟩ f).run replies).result =
      .error (.invalidRequest "Invalid filter ids: ids must not contain blank entries.") := by
  intro f replies
  have hs : f.searchesInline = true := by decide +kernel
  obtain ⟨s, hsearch⟩ := exists_search ⟨{}, []⟩ hs
  have hcs : Dialogue.nextReply replies = .candidates _ := rfl
  have hmessage : (Filters.Violation.blankEntry .ids).message =
      "Invalid filter ids: ids must not contain blank entries." := by decide
  rw [run_catalog_of_blank rfl hs hsearch hcs ⟨_, List.mem_singleton_self _, by decide⟩,
    ServiceError.ofViolation, hmessage]
  exact ⟨rfl, rfl⟩

end MarketQuery.Service
