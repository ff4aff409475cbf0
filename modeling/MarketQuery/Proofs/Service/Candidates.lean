import Mathlib.Data.List.Nodup
import MarketQuery.Service

namespace MarketQuery.Service

section FirstOccurrences

variable {seen ss : List String} {s t : String}

theorem firstOccurrences_cons_of_mem (h : s ∈ seen) (ss : List String) :
    firstOccurrences seen (s :: ss) = firstOccurrences seen ss :=
  if_pos (List.contains_iff_mem.mpr h)

theorem firstOccurrences_cons_of_notMem (h : s ∉ seen) (ss : List String) :
    firstOccurrences seen (s :: ss) = s :: firstOccurrences (s :: seen) ss :=
  if_neg (mt List.contains_iff_mem.mp h)

/-- What has not been seen before is kept, once. -/
theorem firstOccurrences_eq (seen ss : List String) :
    firstOccurrences seen ss = (ss.filter (!seen.contains ·)).eraseDups := by
  induction ss generalizing seen with
  | nil => rfl
  | cons s ss ih =>
    rw [firstOccurrences, List.filter_cons]
    cases hs : seen.contains s with
    | true => simpa using ih seen
    | false =>
      have hfilter : ss.filter (!(s :: seen).contains ·) =
          (ss.filter (!seen.contains ·)).filter (!· == s) := by
        rw [List.filter_filter]
        refine List.filter_congr fun t _ => ?_
        rw [List.contains_cons, Bool.not_or]
      simp only [Bool.false_eq_true, if_false, Bool.not_false, if_true, ih, List.eraseDups_cons,
        hfilter]

/-- Nothing new is lost, and nothing else is added. -/
theorem mem_firstOccurrences : s ∈ firstOccurrences seen ss ↔ s ∈ ss ∧ s ∉ seen := by
  rw [firstOccurrences_eq]
  simp

/-- Nothing comes twice. -/
theorem nodup_firstOccurrences (seen ss : List String) : (firstOccurrences seen ss).Nodup := by
  induction ss generalizing seen with
  | nil => exact List.nodup_nil
  | cons s ss ih =>
    by_cases hs : s ∈ seen
    · rw [firstOccurrences_cons_of_mem hs]
      exact ih seen
    · rw [firstOccurrences_cons_of_notMem hs, List.nodup_cons]
      have hgone : s ∉ firstOccurrences (s :: seen) ss := fun h =>
        (mem_firstOccurrences.mp h).2 (List.mem_cons_self ..)
      exact ⟨hgone, ih (s :: seen)⟩

/-- Of two texts that are still to come, the one that comes first stays first. A text that does not
come at all is after all that do. -/
theorem idxOf_firstOccurrences_lt_iff (hs : s ∉ seen) (ht : t ∉ seen) :
    (firstOccurrences seen ss).idxOf s < (firstOccurrences seen ss).idxOf t ↔
      ss.idxOf s < ss.idxOf t := by
  induction ss generalizing seen with
  | nil => rfl
  | cons u ss ih =>
    by_cases hu : u ∈ seen
    · have hus : u ≠ s := fun h => hs (h ▸ hu)
      have hut : u ≠ t := fun h => ht (h ▸ hu)
      rw [firstOccurrences_cons_of_mem hu, ih hs ht, List.idxOf_cons_ne _ hus,
        List.idxOf_cons_ne _ hut, Nat.succ_lt_succ_iff]
    · rw [firstOccurrences_cons_of_notMem hu]
      by_cases hut : u = t
      · subst hut
        simp only [List.idxOf_cons_self, Nat.not_lt_zero]
      rw [List.idxOf_cons_ne _ hut, List.idxOf_cons_ne _ hut]
      by_cases hus : u = s
      · subst hus
        simp only [List.idxOf_cons_self, Nat.succ_pos]
      have hs' : s ∉ u :: seen := List.not_mem_cons_of_ne_of_not_mem (Ne.symm hus) hs
      have ht' : t ∉ u :: seen := List.not_mem_cons_of_ne_of_not_mem (Ne.symm hut) ht
      rw [List.idxOf_cons_ne _ hus, List.idxOf_cons_ne _ hus, Nat.succ_lt_succ_iff,
        Nat.succ_lt_succ_iff]
      exact ih hs' ht'

/-- What has come before adds nothing when it comes again. -/
theorem firstOccurrences_append_cons {before : List String} (h : s ∈ before ∨ s ∈ seen)
    (after : List String) :
    firstOccurrences seen (before ++ s :: after) = firstOccurrences seen (before ++ after) := by
  induction before generalizing seen with
  | nil => exact firstOccurrences_cons_of_mem (h.resolve_left List.not_mem_nil) after
  | cons t before ih =>
    rw [List.cons_append, List.cons_append]
    by_cases ht : t ∈ seen
    · have hs : s ∈ before ∨ s ∈ seen := by
        rcases h with h | h
        · rcases List.mem_cons.mp h with rfl | h
          · exact .inr ht
          · exact .inl h
        · exact .inr h
      rw [firstOccurrences_cons_of_mem ht, firstOccurrences_cons_of_mem ht, ih hs]
    · have hs : s ∈ before ∨ s ∈ t :: seen := by
        rw [List.mem_cons] at h ⊢
        tauto
      rw [firstOccurrences_cons_of_notMem ht, firstOccurrences_cons_of_notMem ht, ih hs]

/-- Texts that each come once stay as they are. -/
theorem firstOccurrences_of_nodup (h : ss.Nodup) (hseen : ∀ s ∈ ss, s ∉ seen) :
    firstOccurrences seen ss = ss := by
  induction ss generalizing seen with
  | nil => rfl
  | cons s ss ih =>
    rw [List.nodup_cons] at h
    rw [List.forall_mem_cons] at hseen
    have hrest : ∀ t ∈ ss, t ∉ s :: seen := fun t ht =>
      List.not_mem_cons_of_ne_of_not_mem (fun hts => h.1 (hts ▸ ht)) (hseen.2 t ht)
    rw [firstOccurrences_cons_of_notMem hseen.1, ih h.2 hrest]

end FirstOccurrences

section RankedIds

variable {f g : Filters.Catalog} {cs ds : List Candidate}

/-- A request for the candidates of its search, each once and in the order in which they come. -/
theorem withRankedIds_eq (f : Filters.Catalog) (cs : List Candidate) :
    withRankedIds f cs = { f with ids := (cs.map Candidate.id).eraseDups } := by
  rw [withRankedIds, firstOccurrences_eq]
  simp

theorem mem_withRankedIds {id : String} :
    id ∈ (withRankedIds f cs).ids ↔ id ∈ cs.map Candidate.id :=
  mem_firstOccurrences.trans (and_iff_left List.not_mem_nil)

theorem withRankedIds_eq_nil_iff : (withRankedIds f cs).ids = [] ↔ cs = [] := by
  have hmap : cs.map Candidate.id = [] ↔ cs = [] := List.map_eq_nil_iff
  rw [← hmap, List.eq_nil_iff_forall_not_mem, List.eq_nil_iff_forall_not_mem]
  exact forall_congr' fun _ => not_congr mem_withRankedIds

/-- A candidate whose item has been found before changes nothing. -/
theorem withRankedIds_append_cons {before : List Candidate} {c : Candidate}
    (h : c.id ∈ before.map Candidate.id) (after : List Candidate) :
    withRankedIds f (before ++ c :: after) = withRankedIds f (before ++ after) := by
  have hids : firstOccurrences [] (before.map Candidate.id ++ c.id :: after.map Candidate.id) =
      firstOccurrences [] (before.map Candidate.id ++ after.map Candidate.id) :=
    firstOccurrences_append_cons (.inl h) _
  simp only [withRankedIds, List.map_append, List.map_cons, hids]

/-- A ranking by ids that are settled already settles the same ids. -/
theorem withRankedIds_of_ranked (h : ds.map Candidate.id = (withRankedIds f cs).ids) :
    withRankedIds g ds = { g with ids := (withRankedIds f cs).ids } := by
  have hids : firstOccurrences [] (withRankedIds f cs).ids = (withRankedIds f cs).ids :=
    firstOccurrences_of_nodup (nodup_firstOccurrences [] _) fun _ _ => List.not_mem_nil
  rw [withRankedIds, h, hids]

end RankedIds

/-- A ranking settles the ids of a request and nothing else. Every candidate is among them once,
where it comes first. Nothing but the ids of the candidates counts, a candidate that has come before
might as well not come again, and to rank once more by the ids that were found changes nothing. -/
theorem ranking_keeps_best_places (f : Filters.Catalog) (cs : List Candidate) :
    let g := withRankedIds f cs
    let found := cs.map Candidate.id
    g = { f with ids := g.ids } ∧
    g.ids.Nodup ∧
    (∀ id, id ∈ g.ids ↔ id ∈ found) ∧
    (∀ id id', g.ids.idxOf id < g.ids.idxOf id' ↔ found.idxOf id < found.idxOf id') ∧
    (g.ids = [] ↔ cs = []) ∧
    (∀ f' ds, ds.map Candidate.id = found → (withRankedIds f' ds).ids = g.ids) ∧
    (∀ before c after, cs = before ++ c :: after → c.id ∈ before.map Candidate.id →
      withRankedIds f (before ++ after) = g) ∧
    ∀ ds, ds.map Candidate.id = g.ids → withRankedIds f ds = g ∧ withRankedIds g ds = g := by
  intro g found
  refine ⟨rfl, nodup_firstOccurrences [] found, fun id => mem_withRankedIds,
    fun id id' => idxOf_firstOccurrences_lt_iff List.not_mem_nil List.not_mem_nil,
    withRankedIds_eq_nil_iff, fun f' ds hids => congrArg (firstOccurrences []) hids, ?_,
    fun ds hids => ⟨withRankedIds_of_ranked hids, withRankedIds_of_ranked hids⟩⟩
  rintro before c after hcs hc
  rw [← withRankedIds_append_cons hc after, ← hcs]

/-- One hat is found by its tag and again, as a worse match, by its name. -/
theorem ranking_keeps_best_places_hats :
    let f : Filters.Catalog := { search := some "hat", ids := ["c"] }
    let byTag : Candidate := ⟨"b", 0.9, "tag", "hat"⟩
    let other : Candidate := ⟨"a", 0.7, "name", "hat"⟩
    let byName : Candidate := ⟨"b", 0.4, "name", "hats"⟩
    withRankedIds f [byTag, other] = withRankedIds f [byTag, other, byName] ∧
      withRankedIds (withRankedIds f [byTag, other, byName]) [byTag, other] =
        withRankedIds f [byTag, other, byName] := by
  intro f byTag other byName
  obtain ⟨-, -, -, -, -, -, hrepeat, hagain⟩ :=
    ranking_keeps_best_places f [byTag, other, byName]
  have hids : [byTag, other].map Candidate.id = (withRankedIds f [byTag, other, byName]).ids := rfl
  exact ⟨hrepeat [byTag, other] byName [] rfl (List.mem_cons_self ..), (hagain _ hids).2⟩

end MarketQuery.Service
