import MarketQuery.Schemas
import MarketQuery.Sql.Fragment

namespace MarketQuery.Sql

inductive Piece where
  | text (s : String)
  | schema (role : SchemaRole)
  deriving DecidableEq

/-- SQL text with gaps for schema names. It is closed data, so what its own text may contain can be
checked once, whatever names fill its gaps. -/
abbrev Template := List Piece

instance : Coe String Piece := ⟨.text⟩

instance : Coe SchemaRole Piece := ⟨.schema⟩

def Piece.fill (schemas : Schemas) : Piece → Fragment
  | .text s => .text s
  | .schema role => .text (schemas.name role)

def Template.fill (schemas : Schemas) (t : Template) : Fragment :=
  .concat (t.map (Piece.fill schemas))

theorem Template.params_fill (schemas : Schemas) (t : Template) : (t.fill schemas).params = [] := by
  rw [fill, Fragment.params_concat, List.flatMap_map, List.flatMap_eq_nil_iff]
  rintro (s | role) - <;> exact Fragment.params_text _

end MarketQuery.Sql
