import MarketQuery.Proofs.Query.Accepted
import MarketQuery.Proofs.Query.Forms
import MarketQuery.Proofs.Query.Nft.Decoding
import MarketQuery.Proofs.Query.Nft.Sketch
import MarketQuery.Proofs.Sql.Pieces

namespace MarketQuery.Query

open Sql (Atom Conjunct Fragment Sketch Statement)
open Sql.Sketch (Draws)

set_option maxRecDepth 10000

namespace Condition

variable {F : Type} {table : List (Condition F)} {f : F}

def parts (table : List (Condition F)) (f : F) : List Fragment := (present table f).map (·.2)

def dimensions (table : List (Condition F)) (f : F) : List String := (present table f).map (·.1)

/-- Conditions that are there keep the order of their table. -/
theorem dimensions_sublist (table : List (Condition F)) (f : F) :
    (dimensions table f).Sublist (table.map Condition.dimension) := by
  induction table with
  | nil => exact List.Sublist.slnil
  | cons c table ih =>
    rw [dimensions, present, List.filterMap_cons]
    cases c.build f with
    | none => exact ih.cons c.dimension
    | some x => exact ih.cons_cons c.dimension

end Condition

open Condition (Joinable dimensions dimensions_sublist parts)

section Join

def joined (p : Fragment) (ps : List Fragment) : Fragment :=
  p ++ .concat (ps.map (.text separator ++ ·))

variable {p : Fragment} {ps : List Fragment}

theorem atoms_joined (p : Fragment) (ps : List Fragment) :
    (joined p ps).atoms = p.atoms ++
      (ps.map Fragment.atoms).flatMap ((Fragment.text separator).atoms ++ ·) := by
  simp [joined, List.flatMap_map]

/-- A condition that can be joined has no line break, which is what a separator begins with. -/
theorem newline_not_mem {x : Fragment} (h : Joinable x.outline) : Atom.char '\n' ∉ x.atoms :=
  fun hx => h.2 (List.mem_map_of_mem (f := Atom.outline) hx)

theorem newline_not_mem_atoms (h : ∀ x ∈ p :: ps, Joinable x.outline) :
    ∀ xs ∈ p.atoms :: ps.map Fragment.atoms, Atom.char '\n' ∉ xs := by
  rw [← List.map_cons, List.forall_mem_map]
  exact fun x hx => newline_not_mem (h x hx)

theorem atoms_separator :
    (Fragment.text separator).atoms = .char '\n' :: "\tAND ".toList.map .char := rfl

/-- What has been joined is got back. -/
theorem pieces_joined (h : ∀ x ∈ p :: ps, Joinable x.outline) :
    (joined p ps).pieces separator = p :: ps := by
  rw [Fragment.pieces, atoms_joined, atoms_separator, Sql.pieces_join (newline_not_mem_atoms h),
    List.map_cons, List.map_map]
  exact congrArg (p :: ·) (List.map_id ps)

/-- A line that begins with another word is not among the conditions. -/
theorem infix_joined_iff (h : ∀ x ∈ p :: ps, Joinable x.outline) {c : Char} (hc : c ≠ '\t')
    (t : List Atom) (r : List Atom) :
    .char '\n' :: .char c :: t <:+: (joined p ps).atoms ++ r ↔
      .char '\n' :: .char c :: t <:+: r := by
  rw [atoms_joined, List.append_assoc, atoms_separator]
  refine Sql.infix_join_iff (by decide) (fun x hx => ?_) (newline_not_mem_atoms h)
  exact hc (Atom.char.inj (List.cons_prefix_cons.mp hx).1)

/-- Conditions with AND between them are such a condition again, and none of them is regrouped. -/
theorem conjunct_joined (h : ∀ x ∈ p :: ps, Joinable x.outline) :
    Conjunct (joined p ps).outline := by
  induction ps generalizing p with
  | nil =>
    have hp := (h p (List.mem_cons_self ..)).1
    simpa [joined] using hp
  | cons q ps ih =>
    rw [List.forall_mem_cons] at h
    have hcons : joined p (q :: ps) = p ++ (.text separator ++ joined q ps) := by
      simp only [joined, List.map_cons, Fragment.concat_cons, Fragment.append_assoc]
    rw [hcons, Fragment.outline_append, Fragment.outline_append]
    exact h.1.1.and (ih h.2)

end Join

namespace Catalog

theorem whereClause_eq_joined (f : Filters.Catalog) :
    whereClause f =
      .text "WHERE " ++ joined (.text baseCondition) (parts conditions f) := by
  rw [whereClause, Fragment.text_append, Fragment.append_assoc, joined, parts, List.map_map]
  rfl

/-- The conditions on catalog items can be joined, whatever their values are. -/
theorem joinable_parts (f : Filters.Catalog) :
    ∀ x ∈ .text baseCondition :: parts conditions f, Joinable x.outline := by
  rw [List.forall_mem_cons, parts, List.forall_mem_map]
  exact ⟨joinable_base, fun _ => joinable⟩

end Catalog

namespace Nft

theorem joinable_parts (f : Filters.Nft) : ∀ x ∈ parts conditions f, Joinable x.outline := by
  rw [parts, List.forall_mem_map]
  exact fun _ => joinable

theorem newline_not_mem_page (f : Filters.Nft) : Atom.char '\n' ∉
    (Fragment.text (toString (pageSize f) ++ " OFFSET " ++ toString (pageStart f))).atoms := by
  have hdigits (n : Nat) : '\n' ∉ Nat.toDigits 10 n := fun h =>
    absurd (Nat.isDigit_of_mem_toDigits (by decide) (by decide) h) (by decide)
  simp [Nat.toString_eq_repr, Nat.toList_repr, hdigits]

/-- The page is one line, and begins with a word of its own. -/
theorem not_infix_pageLine (f : Filters.Nft) {c : Char} (hc : c ≠ 'L') (t : List Atom) :
    ¬ .char '\n' :: .char c :: t <:+: (pageLine f).atoms := by
  have hline : Atom.char '\n' ∉ "LIMIT ".toList.map Atom.char ++
      (Fragment.text (toString (pageSize f) ++ " OFFSET " ++ toString (pageStart f))).atoms := by
    rw [List.mem_append, not_or]
    exact ⟨by decide, newline_not_mem_page f⟩
  have hsplit : (pageLine f).atoms = .char '\n' :: ("LIMIT ".toList.map .char ++
      (Fragment.text (toString (pageSize f) ++ " OFFSET " ++ toString (pageStart f))).atoms) := by
    rw [pageLine_eq]
    rfl
  rw [hsplit, List.infix_cons_iff, not_or]
  refine ⟨fun hp => ?_, fun hin => hline (hin.subset (List.mem_cons_self ..))⟩
  exact hc (Atom.char.inj (List.cons_prefix_cons.mp (List.cons_prefix_cons.mp hp).2).1)

variable {schemas : Schemas} {marketplaces : List String} {f : Filters.Nft} {p : Fragment}
  {ps : List Fragment}

theorem whereClause_of_parts (h : parts conditions f = p :: ps) :
    whereClause f = .text "\nWHERE " ++ joined p ps := by
  rw [whereClause, ← parts, h]
  rfl

/-- Tokens that nothing is asked of are listed without a clause. -/
theorem whereClause_of_no_parts (h : parts conditions f = []) : whereClause f = .empty := by
  rw [whereClause, ← parts, h]
  rfl

/-- No line behind the clause begins like it, whatever stands before. -/
theorem behindLast_body (h : parts conditions f = p :: ps) :
    (body schemas marketplaces f).behindLast "\nWHERE " = some (joined p ps ++ pageLine f) := by
  have habsent : ¬ (Fragment.text "\nWHERE ").atoms <:+:
      (Fragment.text "\nWHERE ").atoms.tail ++ (joined p ps ++ pageLine f).atoms := by
    have hword : (Fragment.text "\nWHERE ").atoms =
        .char '\n' :: .char 'W' :: "HERE ".toList.map .char := rfl
    rw [hword, Sql.infix_append_iff_of_not_mem (by decide), Fragment.atoms_append,
      infix_joined_iff (h ▸ joinable_parts f) (by decide)]
    exact not_infix_pageLine f (by decide) _
  rw [body_eq, whereClause_of_parts h, ← Fragment.append_assoc, ← Fragment.append_assoc,
    Fragment.append_assoc (.text "\nWHERE "), Fragment.behindLast_append habsent]

theorem beforeFirst_page (h : parts conditions f = p :: ps) :
    (joined p ps ++ pageLine f).beforeFirst "\nLIMIT " = joined p ps := by
  have habsent : ¬ (Fragment.text "\nLIMIT ").atoms <:+:
      (joined p ps).atoms ++ (Fragment.text "\nLIMIT ").atoms.dropLast := by
    have hword : (Fragment.text "\nLIMIT ").atoms =
        .char '\n' :: .char 'L' :: "IMIT ".toList.map .char := rfl
    rw [hword, infix_joined_iff (h ▸ joinable_parts f) (by decide)]
    exact fun hin => absurd hin.length_le (by decide)
  rw [pageLine_eq, Fragment.beforeFirst_append habsent]

def unrestrictedSketch : { k : Sketch // ∀ schemas (marketplaces : List String) (f : Filters.Nft),
    parts conditions f = [] →
    k.Draws schemas (marketplaces.map Text.lowercase) (body schemas marketplaces f) } :=
  ⟨_, fun schemas marketplaces f h => by
    rw [body, whereClause_of_no_parts h]
    exact .append (.append (.append (.append
      (draws_withClause .literal (Source.unifiedTradesSketch.property schemas marketplaces) .nil)
      .literal)
      (.piece <| .piece <| .piece <| .piece <| .piece <| .piece <| .piece <| .piece <| .piece <|
        .piece <| .piece <| .piece <| .piece .last))
      .empty)
      (.text_append (.text_append (.text_append .literal .number) .literal) .number)⟩

theorem unrestrictedSketch_lacks :
    unrestrictedSketch.val.lacks "\nWHERE ".toList (· == "\nWHERE ".toList) = true := by
  decide +kernel

/-- Without conditions there is no clause, and only a schema name could be taken for one. -/
theorem not_infix_of_no_parts (h : parts conditions f = [])
    (hnames : ∀ role, ¬ "\nWHERE ".toList <:+: (schemas.name role).toList) :
    ¬ "\nWHERE ".toList <:+: (body schemas marketplaces f).render.toList := by
  rw [Fragment.toList_render]
  refine (unrestrictedSketch.property schemas marketplaces f h).not_infix_of_lacks
    (fun role b hb => ?_) unrestrictedSketch_lacks 0
  rw [beq_iff_eq.mp hb]
  exact hnames role

end Nft

/-- Split at the separator, a WHERE clause gives back its conditions in the order of their table,
each dimension once at most. None of them is regrouped by the others, as OR stands in parentheses
only. A statement without conditions has no clause, and no line that looks like one unless a schema
name brings it in. -/
theorem where_clause_is_conjunction (c : Compiler) :
    (∀ f : Filters.Catalog, ∃ clause,
      Catalog.whereClause f = .text "WHERE " ++ clause ∧
      clause.pieces separator = .text Catalog.baseCondition :: parts Catalog.conditions f ∧
      Conjunct clause.outline) ∧
    (∀ f : Filters.Nft, f.check = .ok () → ∃ s, c.nfts f = .ok s ∧
      (parts Nft.conditions f ≠ [] → ∃ clause,
        (s.fragment.behindLast "\nWHERE ").map (·.beforeFirst "\nLIMIT ") = some clause ∧
        clause.pieces separator = parts Nft.conditions f ∧ Conjunct clause.outline) ∧
      (parts Nft.conditions f = [] →
        (∀ role, ¬ "\nWHERE ".toList <:+: (c.schemas.name role).toList) →
        ¬ "\nWHERE ".toList <:+: s.sql.toList)) ∧
    (∀ f, ∀ x ∈ .text Catalog.baseCondition :: parts Catalog.conditions f, Conjunct x.outline) ∧
    (∀ f, ∀ x ∈ parts Nft.conditions f, Conjunct x.outline) ∧
    (∀ f, (dimensions Catalog.conditions f).Sublist (Catalog.conditions.map Condition.dimension)) ∧
    (∀ f, (dimensions Nft.conditions f).Sublist (Nft.conditions.map Condition.dimension)) ∧
    (Catalog.conditions.map Condition.dimension).Nodup ∧ Catalog.conditions.length = 22 ∧
    (Nft.conditions.map Condition.dimension).Nodup ∧ Nft.conditions.length = 29 := by
  refine ⟨fun f => ?catalog, fun f hf => ?nfts, fun f x hx => (Catalog.joinable_parts f x hx).1,
    fun f x hx => (Nft.joinable_parts f x hx).1, dimensions_sublist _, dimensions_sublist _,
    by decide, rfl, by decide, rfl⟩
  case catalog =>
    have hparts := Catalog.joinable_parts f
    exact ⟨_, Catalog.whereClause_eq_joined f, pieces_joined hparts, conjunct_joined hparts⟩
  case nfts =>
    refine ⟨_, Nft.statement_eq_ok_iff.mpr ⟨hf, rfl⟩, fun hsome => ?_,
      Nft.not_infix_of_no_parts⟩
    obtain ⟨p, ps, hparts⟩ := List.exists_cons_of_ne_nil hsome
    have hjoinable : ∀ x ∈ p :: ps, Joinable x.outline := hparts ▸ Nft.joinable_parts f
    refine ⟨joined p ps, ?_, ?_, conjunct_joined hjoinable⟩
    · rw [Nft.behindLast_body hparts, Option.map_some, Nft.beforeFirst_page hparts]
    · rw [hparts, pieces_joined hjoinable]

/-- Three conditions, and none. -/
theorem where_clause_is_conjunction_tokens :
    let c : Compiler := ⟨{}, ["0xa"]⟩
    (∃ s, c.nfts { owner := some "0xA", isOnSale := some true, minPrice := some "1" } = .ok s ∧
      ∃ clause, (s.fragment.behindLast "\nWHERE ").map (·.beforeFirst "\nLIMIT ") = some clause ∧
        clause.pieces separator =
          [.text "LOWER(account.address) = LOWER(" ++ .bind (.text "0xA") ++ .text ")",
           .text "(nft.search_order_price >= " ++ .bind (.text "1") ++
             .text "::numeric OR (trades.assets -> 'received' ->> 'amount')::numeric >= " ++
             .bind (.text "1") ++ .text "::numeric)",
           .text "(trades.id IS NOT NULL OR nft.search_order_status = 'open')"] ∧
        Conjunct clause.outline) ∧
    ∃ s, c.nfts {} = .ok s ∧ ¬ "\nWHERE ".toList <:+: s.sql.toList := by
  intro c
  obtain ⟨-, hnfts, -⟩ := where_clause_is_conjunction c
  obtain ⟨s, hs, hclause, -⟩ := hnfts
    { owner := some "0xA", isOnSale := some true, minPrice := some "1" } (by decide +kernel)
  obtain ⟨t, ht, -, hnone⟩ := hnfts {} (by decide)
  obtain ⟨clause, hpart, hpieces, hconjunct⟩ := hclause (List.cons_ne_nil _ _)
  refine ⟨⟨s, hs, clause, hpart, hpieces, hconjunct⟩, t, ht, hnone rfl fun role => ?_⟩
  cases role <;> decide

/-- Schema names go into the text as they are. -/
theorem Nft.infix_marketplace (schemas : Schemas) (marketplaces : List String) (f : Filters.Nft) :
    schemas.marketplace.toList <:+: (body schemas marketplaces f).render.toList := by
  obtain ⟨select, rest, hrows⟩ : ∃ select rest, rows.fill schemas =
      .text select ++ (.text schemas.marketplace ++ rest) := by
    rw [Sql.Template.fill, rows, List.map_cons, List.map_cons, Fragment.concat_cons,
      Fragment.concat_cons]
    exact ⟨_, _, rfl⟩
  rw [body_eq, hrows, Fragment.append_assoc, Fragment.append_assoc, ← Fragment.append_assoc,
    ← Fragment.append_assoc, Fragment.toList_render]
  exact Fragment.infix_renderAtoms_text _ _ _ _

/-- A schema name of two lines can bring in what looks like a clause. -/
theorem where_line_of_schema_name :
    ∃ s, Compiler.nfts ⟨{ marketplace := "a\nWHERE b" }, []⟩ {} = .ok s ∧
      parts Nft.conditions {} = [] ∧ "\nWHERE ".toList <:+: s.sql.toList := by
  refine ⟨_, Nft.statement_eq_ok_iff.mpr ⟨by decide, rfl⟩, rfl, ?_⟩
  have hname : "\nWHERE ".toList <:+: "a\nWHERE b".toList := by decide
  exact hname.trans (Nft.infix_marketplace { marketplace := "a\nWHERE b" } [] {})

end MarketQuery.Query
