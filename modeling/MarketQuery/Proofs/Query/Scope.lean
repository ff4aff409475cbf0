import MarketQuery.Proofs.Query.Accepted
import MarketQuery.Proofs.Query.Catalog.Ranked
import MarketQuery.Proofs.Query.Nft.Sketch
import MarketQuery.Proofs.Sql.Occurrence
import MarketQuery.Proofs.Sql.Tables

namespace MarketQuery.Query

open Sql (DefinedOnce DefinesTables Fragment OccursOnce Sketch Statement isWordy)
open Sql.Sketch (Draws)

set_option maxRecDepth 100000

def tableNames : List String :=
  ["unified_trades", "latest_metadata", "builder_server_items", "search_candidates"]

/-- What a schema name could be mistaken for: such a table, or the column with the owners. -/
def reservedNames : List String := tableNames ++ ["owners_count"]

def Apart (schemas : Schemas) : Prop :=
  ∀ role, ∀ n ∈ reservedNames, ¬ n.toList <:+: (schemas.name role).toList

def blocked (w : List Char) : Bool :=
  w.any (fun c => !isWordy c) || reservedNames.any fun n => n.toList <:+: w

/-- What is blocked stands in no schema name. -/
theorem not_infix_of_blocked {schemas : Schemas} (hp : schemas.Plain) (ha : Apart schemas) :
    ∀ role w, blocked w = true → ¬ w <:+: (schemas.name role).toList := by
  intro role w hw hin
  rcases Bool.or_eq_true_iff.mp hw with hw | hw
  · exact Sql.Scanner.not_infix_of_plain hp role hw hin
  · obtain ⟨n, hn, hinfix⟩ := List.any_eq_true.mp hw
    exact ha role n hn ((of_decide_eq_true hinfix).trans hin)

/-- The text defines these tables and no others, each once, before anything is taken from it; the
names of other tables do not occur. -/
structure Scoped (names : List String) (cs : List Char) : Prop where
  tables : DefinesTables names cs
  defined : ∀ n ∈ names, DefinedOnce n.toList cs
  undefined : ∀ n ∈ tableNames, n ∉ names → ¬ n.toList <:+: cs

def scopes (names : List String) (k : Sketch) : Bool :=
  k.tables names && (names.all fun n => k.definesOnce n.toList blocked) &&
    tableNames.all fun n => names.contains n || k.lacks n.toList blocked

section Checks

variable {schemas : Schemas} {contracts : List String} {k : Sketch} {x : Fragment}

/-- What is checked of a sketch holds of all texts drawn after it. -/
theorem scoped_of_draws (h : k.Draws schemas contracts x) (hp : schemas.Plain)
    (ha : Apart schemas) {names : List String} (hk : scopes names k = true) :
    Scoped names x.render.toList := by
  have hnames := not_infix_of_blocked hp ha
  rw [scopes, Bool.and_eq_true_iff, Bool.and_eq_true_iff] at hk
  obtain ⟨⟨htables, hdefined⟩, hundefined⟩ := hk
  refine ⟨h.definesTables hp htables, fun n hn => ?_, fun n hn hnot => ?_⟩
  · rw [Fragment.toList_render]
    exact h.definedOnce hnames (List.all_eq_true.mp hdefined n hn) 0
  · rcases Bool.or_eq_true_iff.mp (List.all_eq_true.mp hundefined n hn) with hin | hlacks
    · exact absurd (List.contains_iff_mem.mp hin) hnot
    · rw [Fragment.toList_render]
      exact h.not_infix_of_lacks hnames hlacks 0

end Checks

theorem Ranking.sketch_scopes :
    scopes ["latest_metadata", "builder_server_items"] sketch.val = true := by
  decide +kernel

theorem Nft.sketch_scopes : scopes ["unified_trades"] sketch.val = true := by
  decide +kernel

namespace Catalog

variable {schemas : Schemas} {contracts : List String} {f : Filters.Catalog}

def furtherKeySketch : { k : Sketch // ∀ schemas contracts (f : Filters.Catalog),
    k.Draws schemas contracts (furtherKey ((sorting f).map sortingText)) } :=
  ⟨.either .empty (.append (.text ", ".toList) (Sketch.oneOf sortingsSketch.val)),
    fun schemas contracts f => by
      cases hs : sorting f with
      | none => exact .left .empty
      | some s => exact .right (.append .literal
          (Draws.of_mem (sortingsSketch.property schemas contracts) s (sorting_mem hs)))⟩

def similarityOrderSketch : { k : Sketch // ∀ schemas contracts (f : Filters.Catalog),
    k.Draws schemas contracts
      (orderClause true (rankKey []) ((sorting f).map sortingText)) } :=
  ⟨_, fun schemas contracts f => by
    have hkey : "\nORDER BY " ++ "search_candidates.word_similarity DESC" =
        "\nORDER BY search_candidates.word_similarity DESC" := by decide
    rw [orderClause_ranked, rankKey, if_pos List.isEmpty_nil, ← Fragment.append_assoc,
      ← Fragment.text_append, hkey]
    exact .append .literal (furtherKeySketch.property schemas contracts f)⟩

def idsOrderSketch : { k : Sketch // ∀ schemas contracts (f : Filters.Catalog),
    f.ids.isEmpty = false → k.Draws schemas contracts
      (orderClause true (rankKey f.ids) ((sorting f).map sortingText)) } :=
  ⟨_, fun schemas contracts f hids => by
    rw [orderClause_ranked]
    exact .append .literal (.append (idsKeySketch.property schemas contracts _ hids)
      (furtherKeySketch.property schemas contracts f))⟩

def inlineSketch : { k : Sketch // ∀ schemas (marketplaces : List String) (f : Filters.Catalog),
    f.check = .ok () → f.searchesInline = true →
    k.Draws schemas (marketplaces.map Text.lowercase) (body schemas marketplaces f) } :=
  ⟨_, fun schemas marketplaces f h hs =>
    (bodySketch rankingSourcesSketch.val (.either ownersColumnSketch.val .empty)
        (.either ownersSketch.val .empty) candidatesJoinSketch.val
        similarityOrderSketch.val).property schemas marketplaces f h
      (by
        rw [searchesInline_eq] at hs
        obtain ⟨term, hterm⟩ := Option.isSome_iff_exists.mp hs
        rw [rankingSources, hterm]
        exact rankingSourcesSketch.property schemas _ _ _)
      draws_anyColumn draws_anyOwners
      (by
        have hplan : (JoinPlan.of f).searchCandidates = true := hs
        rw [hplan]
        exact candidatesJoinSketch.property schemas _)
      (by
        obtain ⟨hterm, hids⟩ := searchesInline_iff_term.mp hs
        rw [hterm, hids]
        exact similarityOrderSketch.property schemas _ f)⟩

def idsSketch : { k : Sketch // ∀ schemas (marketplaces : List String) (f : Filters.Catalog),
    f.check = .ok () → f.term?.isSome = true → f.ids ≠ [] →
    k.Draws schemas (marketplaces.map Text.lowercase) (body schemas marketplaces f) } :=
  ⟨_, fun schemas marketplaces f h hterm hids => by
    have hempty : f.ids.isEmpty = false := List.isEmpty_eq_false_iff.mpr hids
    have hs : f.searchesInline = false :=
      Bool.eq_false_iff.mpr fun hs => hids (searchesInline_iff_term.mp hs).2
    exact (bodySketch .empty (.either ownersColumnSketch.val .empty)
        (.either ownersSketch.val .empty) .empty idsOrderSketch.val).property schemas marketplaces f
      h (draws_noTables hs) draws_anyColumn draws_anyOwners (draws_noJoin hs)
      (by
        rw [hterm]
        exact idsOrderSketch.property schemas _ f hempty)⟩

def unorderedSketch : { k : Sketch // ∀ schemas (marketplaces : List String) (f : Filters.Catalog),
    f.check = .ok () → (f.term?.isSome = true → f.ids = []) →
    k.Draws schemas (marketplaces.map Text.lowercase) (body schemas marketplaces f) } :=
  ⟨_, fun schemas marketplaces f h hids =>
    (listingSketch (.either rankingSourcesSketch.val .empty)
        (.either candidatesJoinSketch.val .empty) similarityKeySketch.val).property
      schemas marketplaces f h draws_anyTables draws_anyJoin fun hterm => by
        rw [hids hterm]
        exact similarityKeySketch.property schemas _⟩

def ownedSketch : { k : Sketch // ∀ schemas (marketplaces : List String) (f : Filters.Catalog),
    f.check = .ok () → f.isOnSale = some false →
    k.Draws schemas (marketplaces.map Text.lowercase) (body schemas marketplaces f) } :=
  ⟨_, fun schemas marketplaces f h hsale => by
    have hplan : (JoinPlan.of f).ownersCount = true := decide_eq_true hsale
    exact (bodySketch (.either rankingSourcesSketch.val .empty) ownersColumnSketch.val
        ownersSketch.val (.either candidatesJoinSketch.val .empty)
        (orderSketch (.either idsKeySketch.val similarityKeySketch.val)).val).property
      schemas marketplaces f h draws_anyTables (by
        rw [hplan]
        exact ownersColumnSketch.property schemas _) (by
        rw [hplan]
        exact ownersSketch.property schemas _)
      draws_anyJoin ((orderSketch _).property schemas _ f fun _ => draws_anyKey)⟩

def unownedSketch : { k : Sketch // ∀ schemas (marketplaces : List String) (f : Filters.Catalog),
    f.check = .ok () → f.isOnSale ≠ some false →
    k.Draws schemas (marketplaces.map Text.lowercase) (body schemas marketplaces f) } :=
  ⟨_, fun schemas marketplaces f h hsale => by
    have hplan : (JoinPlan.of f).ownersCount = false := decide_eq_false hsale
    exact (bodySketch (.either rankingSourcesSketch.val .empty) .empty .empty
        (.either candidatesJoinSketch.val .empty)
        (orderSketch (.either idsKeySketch.val similarityKeySketch.val)).val).property
      schemas marketplaces f h draws_anyTables (by
        rw [hplan]
        exact .empty) (by
        rw [hplan]
        exact .empty)
      draws_anyJoin ((orderSketch _).property schemas _ f fun _ => draws_anyKey)⟩

theorem inlineSketch_scopes : scopes tableNames inlineSketch.val = true := by
  decide +kernel

theorem rankedSketch_scopes : scopes ["unified_trades"] rankedSketch.val = true := by
  decide +kernel

/-- Joins the candidates once, and sorts by how well they fit first. -/
structure RanksInline (cs : List Char) : Prop where
  join : OccursOnce "JOIN search_candidates".toList cs
  order : OccursOnce "\nORDER BY ".toList cs
  key : "\nORDER BY search_candidates.word_similarity DESC".toList <:+: cs

def ranksInline (k : Sketch) : Bool :=
  k.hasOnce "JOIN search_candidates".toList blocked && k.hasOnce "\nORDER BY ".toList blocked &&
    k.holds "\nORDER BY search_candidates.word_similarity DESC".toList

theorem ranksInline_of_draws {k : Sketch} {x : Fragment} (h : k.Draws schemas contracts x)
    (hp : schemas.Plain) (ha : Apart schemas) (hk : ranksInline k = true) :
    RanksInline x.render.toList := by
  have hnames := not_infix_of_blocked hp ha
  rw [ranksInline, Bool.and_eq_true_iff, Bool.and_eq_true_iff] at hk
  obtain ⟨⟨hjoin, horder⟩, hkey⟩ := hk
  rw [Fragment.toList_render]
  exact ⟨h.occursOnce hnames hjoin 0, h.occursOnce hnames horder 0, h.infix_of_holds hkey 0⟩

theorem inlineSketch_ranks : ranksInline inlineSketch.val = true := by
  decide +kernel

theorem rankedSketch_lacks_similarity :
    rankedSketch.val.lacks "similarity(".toList blocked = true := by
  decide +kernel

theorem idsSketch_holds_position : idsSketch.val.holds "array_position(".toList = true := by
  decide +kernel

theorem unorderedSketch_lacks_position :
    unorderedSketch.val.lacks "array_position(".toList blocked = true := by
  decide +kernel

theorem ownedSketch_holds_owners :
    ownedSketch.val.holds "nfts.owners_count".toList = true ∧
      ownedSketch.val.holds "AS owners_count".toList = true := by
  decide +kernel

theorem unownedSketch_lacks_owners :
    unownedSketch.val.lacks "owners_count".toList blocked = true := by
  decide +kernel

/-- The parts of the text agree on whether a search is ranked in it, or its candidates are given in
order, and on whether owners are counted. -/
structure Coherent (f : Filters.Catalog) (cs : List Char) : Prop where
  inline : f.term?.isSome = true → f.ids = [] → Scoped tableNames cs ∧ RanksInline cs
  other : ¬ (f.term?.isSome = true ∧ f.ids = []) →
    Scoped ["unified_trades"] cs ∧ ¬ "similarity(".toList <:+: cs
  position : "array_position(".toList <:+: cs ↔ f.term?.isSome = true ∧ f.ids ≠ []
  /-- There are never both keys of a ranking. -/
  oneKey : ¬ ("array_position(".toList <:+: cs ∧ "search_candidates.word_similarity".toList <:+: cs)
  ownersColumn : "nfts.owners_count".toList <:+: cs ↔ f.isOnSale = some false
  ownersJoin : "AS owners_count".toList <:+: cs ↔ f.isOnSale = some false

section Coherence

variable {marketplaces : List String}

/-- The order of ids shows in the text exactly if the ids stand for a ranking. -/
theorem position_iff (hp : schemas.Plain) (ha : Apart schemas) (h : f.check = .ok ()) :
    "array_position(".toList <:+: (body schemas marketplaces f).render.toList ↔
      f.term?.isSome = true ∧ f.ids ≠ [] := by
  rw [Fragment.toList_render]
  refine ⟨fun hin => ?_, fun ⟨hterm, hids⟩ => ?_⟩
  · by_contra hnot
    have hids (hterm : f.term?.isSome = true) : f.ids = [] := by
      by_contra hids
      exact hnot ⟨hterm, hids⟩
    exact (unorderedSketch.property schemas marketplaces f h hids).not_infix_of_lacks
      (not_infix_of_blocked hp ha) unorderedSketch_lacks_position 0 hin
  · exact (idsSketch.property schemas marketplaces f h hterm hids).infix_of_holds
      idsSketch_holds_position 0

/-- Whatever speaks of the owners is there for items that are not on sale, and for no others. -/
theorem owners_iff (hp : schemas.Plain) (ha : Apart schemas) (h : f.check = .ok ())
    {w : List Char} (hw : "owners_count".toList <:+: w) (hholds : ownedSketch.val.holds w = true) :
    w <:+: (body schemas marketplaces f).render.toList ↔ f.isOnSale = some false := by
  rw [Fragment.toList_render]
  refine ⟨fun hin => ?_, fun hsale => ?_⟩
  · by_contra hsale
    exact (unownedSketch.property schemas marketplaces f h hsale).not_infix_of_lacks
      (not_infix_of_blocked hp ha) unownedSketch_lacks_owners 0 (hw.trans hin)
  · exact (ownedSketch.property schemas marketplaces f h hsale).infix_of_holds hholds 0

/-- The parts of a statement agree, in whichever way its search is ranked. -/
theorem coherent (hp : schemas.Plain) (ha : Apart schemas) (h : f.check = .ok ()) :
    Coherent f (body schemas marketplaces f).render.toList := by
  have hdraws (hs : ¬ (f.term?.isSome = true ∧ f.ids = [])) :
      rankedSketch.val.Draws schemas (marketplaces.map Text.lowercase)
        (body schemas marketplaces f) :=
    rankedSketch.property schemas marketplaces f h <| by
      rwa [← searchesInline_iff_term, Bool.not_eq_true] at hs
  have hplain (hs : ¬ (f.term?.isSome = true ∧ f.ids = [])) :
      Scoped ["unified_trades"] (body schemas marketplaces f).render.toList :=
    scoped_of_draws (hdraws hs) hp ha rankedSketch_scopes
  refine ⟨fun hterm hids => ?inline, fun hs => ⟨hplain hs, ?other⟩, position_iff hp ha h,
    fun ⟨hposition, hsimilarity⟩ => ?oneKey,
    owners_iff hp ha h (by decide) ownedSketch_holds_owners.1,
    owners_iff hp ha h (by decide) ownedSketch_holds_owners.2⟩
  case inline =>
    have hinline := inlineSketch.property schemas marketplaces f h
      (searchesInline_iff_term.mpr ⟨hterm, hids⟩)
    exact ⟨scoped_of_draws hinline hp ha inlineSketch_scopes,
      ranksInline_of_draws hinline hp ha inlineSketch_ranks⟩
  case other =>
    rw [Fragment.toList_render]
    exact (hdraws hs).not_infix_of_lacks (not_infix_of_blocked hp ha)
      rankedSketch_lacks_similarity 0
  case oneKey =>
    -- With ids in order, the candidates are not even mentioned.
    obtain ⟨-, hids⟩ := (position_iff hp ha h).mp hposition
    have hcandidates : "search_candidates".toList <:+:
        "search_candidates.word_similarity".toList := by decide
    exact (hplain fun hs => hids hs.2).undefined "search_candidates" (by decide) (by decide)
      (hcandidates.trans hsimilarity)

end Coherence

end Catalog

/-- If schema names can be told from the tables of the statements, every table that is mentioned is
defined, once, and what is mentioned is what the request calls for. -/
theorem names_in_scope {c : Compiler} (hp : c.schemas.Plain) (ha : Apart c.schemas) :
    (∀ f s, c.catalog f = .ok s → Catalog.Coherent f s.sql.toList) ∧
    (∀ f s, c.search f = .ok s →
      Scoped ["latest_metadata", "builder_server_items"] s.sql.toList) ∧
    ∀ f s, c.nfts f = .ok s → Scoped ["unified_trades"] s.sql.toList := by
  refine ⟨fun f s hf => ?_, fun f s hf => ?_, fun f s hf => ?_⟩
  · obtain ⟨hcheck, rfl⟩ := Catalog.statement_eq_ok_iff.mp hf
    exact Catalog.coherent hp ha hcheck
  · obtain ⟨term, -, -, rfl⟩ := Ranking.statement_eq_ok_iff.mp hf
    exact scoped_of_draws (Ranking.sketch.property _ [] f term) hp ha Ranking.sketch_scopes
  · obtain ⟨hcheck, rfl⟩ := Nft.statement_eq_ok_iff.mp hf
    exact scoped_of_draws (Nft.sketch.property _ _ f hcheck) hp ha Nft.sketch_scopes

/-- The default schemas, and a search for items that are not on sale. -/
theorem names_in_scope_hats :
    Schemas.Plain {} ∧ Apart {} ∧
      ∃ s, (⟨{}, []⟩ : Compiler).catalog { search := some "hat", isOnSale := some false } = .ok s ∧
        Catalog.Coherent { search := some "hat", isOnSale := some false } s.sql.toList := by
  have hp : Schemas.Plain {} := by
    rintro (_ | _ | _ | _) <;> decide
  have ha : Apart {} := by
    rintro (_ | _ | _ | _) <;> decide
  exact ⟨hp, ha, _, rfl, (names_in_scope hp ha).1 _ _ rfl⟩

end MarketQuery.Query
