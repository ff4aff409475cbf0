import MarketQuery.Proofs.Query.Accepted
import MarketQuery.Proofs.Query.Catalog.Shape
import MarketQuery.Proofs.Query.Nft.Shape

namespace MarketQuery.Query

open Filters (Checked)
open Sql (Statement)

def SameText (s t : Checked Statement) : Prop :=
  ∃ text, s.map Statement.sql = .ok text ∧ t.map Statement.sql = .ok text

theorem sameText_of_outline {s t : Sql.Fragment} (h : s.outline = t.outline) :
    SameText (.ok ⟨s⟩) (.ok ⟨t⟩) :=
  ⟨s.render, rfl, congrArg Except.ok (Sql.Fragment.render_eq_of_outline h).symm⟩

namespace Ranking

/-- What a request for a ranking shows in the text of its statement: of its term whether it speaks
of utility, of its network whether it is Ethereum, and whether there are ids. -/
structure Shape where
  variant : Option (Bool × Bool)
  noIds : Bool
  deriving DecidableEq

def shape (f : Filters.Catalog) : Shape where
  variant := f.term?.map (rankingVariant f.network)
  noIds := f.ids.isEmpty

def Accepted (f : Filters.Catalog) : Prop :=
  f.term?.isSome ∧ Filters.requireEntries .ids f.ids = .ok ()

/-- A ranking shows of its request no more than the shape of it. -/
theorem outline_body (schemas : Schemas) {f g : Filters.Catalog} {s t : String}
    (hs : f.term? = some s) (ht : g.term? = some t) (h : shape f = shape g) :
    (body schemas f s).outline = (body schemas g t).outline := by
  simp only [shape, hs, ht, Option.map_some, Shape.mk.injEq, Option.some.injEq] at h
  obtain ⟨hvariant, hids⟩ := h
  simp only [body, Sql.Fragment.outline_append, hids,
    outline_withClause (outline_sources schemas s t), outline_candidateUnion schemas hvariant]
  split <;> simp

end Ranking

/-- Requests of one shape have one text, for all three kinds of statements. The contracts that
trades are settled on may differ as well. -/
theorem text_depends_on_shape (schemas : Schemas) (as bs : List String) :
    (∀ f g : Filters.Catalog, f.check = .ok () → g.check = .ok () →
      Catalog.shape f = Catalog.shape g →
      SameText ((Compiler.mk schemas as).catalog f) ((Compiler.mk schemas bs).catalog g)) ∧
    (∀ f g : Filters.Catalog, Ranking.Accepted f → Ranking.Accepted g →
      Ranking.shape f = Ranking.shape g →
      SameText ((Compiler.mk schemas as).search f) ((Compiler.mk schemas bs).search g)) ∧
    (∀ f g : Filters.Nft, f.check = .ok () → g.check = .ok () →
      Nft.shape f = Nft.shape g →
      SameText ((Compiler.mk schemas as).nfts f) ((Compiler.mk schemas bs).nfts g)) := by
  refine ⟨?catalog, ?search, ?nfts⟩
  case catalog =>
    intro f g hf hg h
    have hs : (Compiler.mk schemas as).catalog f = .ok ⟨Catalog.body schemas as f⟩ :=
      Catalog.statement_eq_ok_iff.mpr ⟨hf, rfl⟩
    have ht : (Compiler.mk schemas bs).catalog g = .ok ⟨Catalog.body schemas bs g⟩ :=
      Catalog.statement_eq_ok_iff.mpr ⟨hg, rfl⟩
    rw [hs, ht]
    exact sameText_of_outline (Catalog.outline_body schemas as bs h)
  case search =>
    intro f g ⟨hf, hfids⟩ ⟨hg, hgids⟩ h
    obtain ⟨x, hx⟩ := Option.isSome_iff_exists.mp hf
    obtain ⟨y, hy⟩ := Option.isSome_iff_exists.mp hg
    have hs : (Compiler.mk schemas as).search f = .ok ⟨Ranking.body schemas f x⟩ :=
      Ranking.statement_eq_ok_iff.mpr ⟨x, hx, hfids, rfl⟩
    have ht : (Compiler.mk schemas bs).search g = .ok ⟨Ranking.body schemas g y⟩ :=
      Ranking.statement_eq_ok_iff.mpr ⟨y, hy, hgids, rfl⟩
    rw [hs, ht]
    exact sameText_of_outline (Ranking.outline_body schemas hx hy h)
  case nfts =>
    intro f g hf hg h
    have hs : (Compiler.mk schemas as).nfts f = .ok ⟨Nft.body schemas as f⟩ :=
      Nft.statement_eq_ok_iff.mpr ⟨hf, rfl⟩
    have ht : (Compiler.mk schemas bs).nfts g = .ok ⟨Nft.body schemas bs g⟩ :=
      Nft.statement_eq_ok_iff.mpr ⟨hg, rfl⟩
    rw [hs, ht]
    exact sameText_of_outline (Nft.outline_body schemas as bs h)

/-- A quotation mark, a second statement or a placeholder among the values changes nothing. -/
theorem text_depends_on_shape_hostile :
    SameText
      ((Compiler.mk {} ["0xa"]).catalog
        { search := some "hat", creator := some (.one "0x1"), urns := ["u"] })
      ((Compiler.mk {} ["'; --", "$1"]).catalog
        { search := some "' OR 1 = 1", creator := some (.many ["$2"]), urns := ["a", "')"] }) ∧
    SameText
      ((Compiler.mk {} []).search { search := some "hat", ids := ["1"], rarities := [.epic] })
      ((Compiler.mk {} []).search { search := some "$9); --", ids := ["'", "\""] }) ∧
    SameText
      ((Compiler.mk {} ["0xa"]).nfts { owner := some "0x1", tokenId := some "7", first := some 0 })
      ((Compiler.mk {} []).nfts { owner := some "') --", tokenId := some "12" }) := by
  obtain ⟨hcatalog, -, -⟩ := text_depends_on_shape {} ["0xa"] ["'; --", "$1"]
  obtain ⟨-, hsearch, -⟩ := text_depends_on_shape {} [] []
  obtain ⟨-, -, hnfts⟩ := text_depends_on_shape {} ["0xa"] []
  exact ⟨hcatalog _ _ rfl rfl (by decide +kernel),
    hsearch _ _ ⟨by decide +kernel, rfl⟩ ⟨by decide +kernel, rfl⟩ (by decide +kernel),
    hnfts _ _ rfl rfl (by decide +kernel)⟩

end MarketQuery.Query
