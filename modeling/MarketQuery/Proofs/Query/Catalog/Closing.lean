import MarketQuery.Proofs.Query.Facets
import MarketQuery.Proofs.Sql.Placeholders
import MarketQuery.Proofs.Sql.Prefix

namespace MarketQuery.Query.Catalog

open Filters (SortDirection SortKey)
open Sql (Distinct Fragment)
open Sql.Fragment

set_option maxRecDepth 4000

def pageClause (p : Option (UInt32 × UInt32)) : Fragment :=
  .concat ((p.map fun p => .text (pageText p)).toList.map line)

theorem pageClause_some (p : UInt32 × UInt32) :
    pageClause (some p) = .text "\nLIMIT " ++
      .text (toString p.1.toNat ++ " OFFSET " ++ toString p.2.toNat) := by
  have hsplit : "\nLIMIT " = "\n" ++ "LIMIT " := by decide
  rw [hsplit, ← text_append]
  simp only [pageClause, Option.map_some, Option.toList_some, List.map_cons, List.map_nil,
    concat_cons, concat_nil, append_empty, line, pageText, String.append_assoc, text_append]

theorem pageClause_inj {p q : Option (UInt32 × UInt32)} (h : pageClause p = pageClause q) :
    p = q := by
  have hne : ∀ p, pageClause (some p) ≠ pageClause none := by
    intro p hp
    have ha := congrArg atoms hp
    simp [pageClause, line] at ha
  cases p with
  | none =>
    cases q with
    | none => rfl
    | some q => exact absurd h.symm (hne q)
  | some p =>
    cases q with
    | none => exact absurd h (hne p)
    | some q =>
      rw [pageClause_some, pageClause_some, append_right_inj, text_inj] at h
      obtain ⟨hl, ho⟩ := Sql.numbers_inj rfl h
      exact congrArg some (Prod.ext (UInt32.toNat_inj.mp hl) (UInt32.toNat_inj.mp ho))

/-- A page is not what an order begins with, nor what stands before its second key. -/
theorem pageClause_ne {w : List Char} (hw : Distinct "\nLIMIT ".toList w)
    (hne : w ≠ []) (p : Option (UInt32 × UInt32)) (x : Fragment) :
    pageClause p ≠ .text (String.ofList w) ++ x := by
  cases p with
  | none =>
    intro h
    have ha := congrArg atoms h
    simp [pageClause, hne] at ha
  | some p =>
    rw [pageClause_some]
    exact ((opens_toList _).append _).ne ((opens_text w).append x) hw

theorem endsLine_pageClause (p : Option (UInt32 × UInt32)) : EndsLine (pageClause p) := by
  intro a ha
  cases p with
  | none => simp [pageClause] at ha
  | some p =>
    have he : some a = some (.char '\n') := by simpa [pageClause, line] using ha.symm
    exact Option.some.inj he

/-- The keys that can be asked for, each with a direction if it heeds one. -/
def sortings : List (SortKey × Option SortDirection) :=
  [(.newest, none), (.mostExpensive, none), (.recentlyListed, none), (.recentlySold, none),
   (.cheapest, none), (.other, some .asc), (.other, some .desc)]

theorem sorting_mem {f : Filters.Catalog} {s : SortKey × Option SortDirection}
    (h : sorting f = some s) : s ∈ sortings := by
  rw [sorting] at h
  split at h
  · generalize Ordering.effective f = e at h
    obtain ⟨key, direction⟩ := e
    cases h
    cases key <;> cases direction <;> decide
  · cases h

/-- No two keys are written alike. -/
theorem sortingText_inj :
    ∀ s ∈ sortings, ∀ t ∈ sortings, sortingText s = sortingText t → s = t := by
  decide

theorem sortingText_line : ∀ s ∈ sortings, '\n' ∉ (sortingText s).toList := by
  decide

/-- No key that can be asked for begins as a ranking does. -/
theorem sortingText_distinct : ∀ s ∈ sortings,
    Distinct ['a', 'r'] (sortingText s).toList ∧ Distinct ['s', 'e'] (sortingText s).toList := by
  decide

def rankKey (ids : List String) : Fragment :=
  if ids.isEmpty then .text "search_candidates.word_similarity DESC"
  else .text "array_position(" ++ .bind (.textArray ids) ++ .text "::text[], items.id::text)"

theorem rankKey_ne {ids : List String} {s : SortKey × Option SortDirection} (hs : s ∈ sortings)
    (x y : Fragment) : rankKey ids ++ x ≠ .text (sortingText s) ++ y := by
  obtain ⟨harray, hsearch⟩ := sortingText_distinct s hs
  have hkey := (opens_toList (sortingText s)).append y
  rw [rankKey]
  split
  · have hrank : Opens ['s', 'e'] (.text "search_candidates.word_similarity DESC") :=
      opens_literal _ _
    exact (hrank.append x).ne hkey hsearch
  · have hrank : Opens ['a', 'r'] (.text "array_position(") := opens_literal _ _
    exact (((hrank.append _).append _).append x).ne hkey harray

def orderClause (ranked : Bool) (rank : Fragment) (key : Option String) : Fragment :=
  match ranked, key with
  | false, none => .empty
  | true, none => .text "\nORDER BY " ++ rank
  | false, some k => .text "\nORDER BY " ++ .text k
  | true, some k => .text "\nORDER BY " ++ (rank ++ (.text ", " ++ .text k))

def furtherKey : Option String → Fragment
  | none => .empty
  | some k => .text ", " ++ .text k

theorem orderClause_ranked (rank : Fragment) (key : Option String) :
    orderClause true rank key = .text "\nORDER BY " ++ (rank ++ furtherKey key) := by
  cases key with
  | none => rw [orderClause, furtherKey, append_empty]
  | some k => rfl

/-- The order is written by whether it starts with a ranking, and by its key. -/
theorem orderBy_eq (f : Filters.Catalog) :
    .concat ((Ordering.orderBy f (JoinPlan.of f).searchCandidates).toList.map line) =
      orderClause f.term?.isSome (rankKey f.ids) ((sorting f).map sortingText) := by
  have hline (x : Fragment) :
      .text "\n" ++ (.text "ORDER BY " ++ x) = .text "\nORDER BY " ++ x := by
    have hsplit : "\nORDER BY " = "\n" ++ "ORDER BY " := by decide
    rw [hsplit, text_append, append_assoc]
  rw [Ordering.orderBy, Ordering.rankedIds, Ordering.inlineRank, requested_eq, JoinPlan.of,
    Filters.Catalog.searchesInline, rankKey]
  cases f.term?.isSome <;> cases f.ids.isEmpty <;> cases sorting f <;>
    simp [orderClause, hline, append_assoc, line, Fragment.join, concat_cons, concat_nil,
      append_empty]

/-- Order and page can be read back, and so can whether the order starts with a ranking. -/
theorem orderClause_inj {a b : Bool} {ids : List String}
    {s t : Option (SortKey × Option SortDirection)} (hs : ∀ k ∈ s, k ∈ sortings)
    (ht : ∀ k ∈ t, k ∈ sortings) {p q : Option (UInt32 × UInt32)}
    (h : orderClause a (rankKey ids) (s.map sortingText) ++ pageClause p =
      orderClause b (rankKey ids) (t.map sortingText) ++ pageClause q) :
    a = b ∧ s = t ∧ p = q := by
  have hkey : ∀ k ∈ sortings, ∀ l ∈ sortings, ∀ p q,
      .text (sortingText k) ++ pageClause p = .text (sortingText l) ++ pageClause q →
      k = l ∧ p = q := by
    intro k hk l hl p q he
    obtain ⟨htext, hpage⟩ := line_inj (sortingText_line k hk) (sortingText_line l hl)
      (endsLine_pageClause p) (endsLine_pageClause q) he
    exact ⟨sortingText_inj k hk l hl htext, pageClause_inj hpage⟩
  have horder : ∀ p x, pageClause p ≠ .text "\nORDER BY " ++ x :=
    pageClause_ne (by decide) (by simp)
  have hcomma : ∀ p x, pageClause p ≠ .text ", " ++ x := pageClause_ne (by decide) (by simp)
  rcases s with _ | k <;> rcases t with _ | l
  case none.none =>
    cases a <;> cases b <;>
      simp only [orderClause, Option.map_none, append_assoc, empty_append, append_right_inj] at h
    · exact ⟨rfl, rfl, pageClause_inj h⟩
    · exact absurd h (horder p _)
    · exact absurd h.symm (horder q _)
    · exact ⟨rfl, rfl, pageClause_inj h⟩
  case none.some =>
    have hl := ht l rfl
    cases a <;> cases b <;> simp only [orderClause, Option.map_none, Option.map_some,
      append_assoc, empty_append, append_right_inj] at h
    · exact absurd h (horder p _)
    · exact absurd h (horder p _)
    · exact absurd h (rankKey_ne hl _ _)
    · exact absurd h (hcomma p _)
  case some.none =>
    have hk := hs k rfl
    cases a <;> cases b <;> simp only [orderClause, Option.map_none, Option.map_some,
      append_assoc, empty_append, append_right_inj] at h
    · exact absurd h.symm (horder q _)
    · exact absurd h.symm (rankKey_ne hk _ _)
    · exact absurd h.symm (horder q _)
    · exact absurd h.symm (hcomma q _)
  case some.some =>
    have hk := hs k rfl
    have hl := ht l rfl
    cases a <;> cases b <;> simp only [orderClause, Option.map_some, append_assoc,
      append_right_inj] at h
    · obtain ⟨rfl, hpq⟩ := hkey k hk l hl p q h
      exact ⟨rfl, rfl, hpq⟩
    · exact absurd h.symm (rankKey_ne hk _ _)
    · exact absurd h (rankKey_ne hl _ _)
    · obtain ⟨rfl, hpq⟩ := hkey k hk l hl p q h
      exact ⟨rfl, rfl, hpq⟩

end MarketQuery.Query.Catalog
