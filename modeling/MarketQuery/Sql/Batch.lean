import MarketQuery.Sql.Fragment
import MarketQuery.Text.Normal

namespace MarketQuery.Sql

structure Batch where
  sql : String
  binds : List Param
  deriving DecidableEq

namespace Batch

def start (text : String) : Batch := ⟨text, []⟩

def push (b : Batch) (text : String) : Batch := { b with sql := b.sql ++ text }

def pushBind (b : Batch) (p : Param) : Batch :=
  let binds := b.binds ++ [p]
  ⟨b.sql ++ "$" ++ toString binds.length, binds⟩

def pushSegment (b : Batch) : Segment → Batch
  | .sql text => b.push text
  | .param p => b.pushBind p

def pushStatement (b : Batch) (s : Statement) : Batch :=
  s.segments.foldl pushSegment b

end Batch

namespace Statement

def rowsPrefix : String := "SELECT to_jsonb(catalog_rows) AS row FROM (\n"

def rowsSuffix : String := "\n) AS catalog_rows"

/-- A statement whose text is white space alone is not worth sending. -/
def isVacuous (s : Statement) : Bool := Text.isBlank s.sql

def plain (s : Statement) : Option Batch :=
  if s.isVacuous then none else some ((Batch.start "").pushStatement s)

def jsonRows (s : Statement) : Option Batch :=
  if s.isVacuous then none
  else some (((Batch.start rowsPrefix).pushStatement s).push rowsSuffix)

end Statement

end MarketQuery.Sql
