import MarketQuery.Json.Value
import MarketQuery.Storage

namespace MarketQuery

open Json (Value)

def Sql.Param.toJson : Sql.Param → Value
  | .text s => .text s
  | .textArray ss => .texts ss
  | .bool b => .bool b
  | .int z => .int z.toInt

def Sql.toJson (sql : String) (params : List Sql.Param) : Value :=
  .record [("sql", .text sql), ("params", .list (params.map Sql.Param.toJson))]

def Sql.Statement.toJson (s : Sql.Statement) : Value := Sql.toJson s.sql s.params

def Page.toJson (p : Page) : Value :=
  .record [("data", .list p.rows), ("total", .int p.total)]

def Candidate.toJson (c : Candidate) : Value :=
  .record [("id", .text c.id), ("word_similarity", .number (.float c.wordSimilarity)),
    ("match_type", .text c.matchType), ("word", .text c.word)]

end MarketQuery
