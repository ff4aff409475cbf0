import MarketQuery.Answer
import MarketQuery.Explain.Arguments
import MarketQuery.Json.Reader
import MarketQuery.Service

namespace MarketQuery.Explain

open Json (Value)
open Query (Compiler)

structure Surroundings where
  file : String → Option ByteArray
  /-- Whether a database answers at that address. -/
  reachable : String → Bool

structure Outcome where
  exit : Nat
  stdout : String

namespace Outcome

def badUsage : Outcome := ⟨2, ""⟩

def failed : Outcome := ⟨1, ""⟩

def printed (v : Value) : Outcome := ⟨0, v.pretty ++ "\n"⟩

end Outcome

inductive Request where
  | catalog (f : Filters.Catalog)
  | search (f : Filters.Catalog)
  | nfts (f : Filters.Nft)

def Request.parse (kind : Kind) (text : String) : Option Request := do
  let v ← Json.parse text
  match kind with
  | .catalog => return .catalog (← Filters.Catalog.decode v)
  | .search => return .search (← Filters.Catalog.decode v)
  | .nfts => return .nfts (← Filters.Nft.decode v)

def Request.compile (c : Compiler) : Request → Filters.Checked Sql.Statement
  | .catalog f => c.catalog f
  | .search f => c.search f
  | .nfts f => c.nfts f

def Request.answer (c : Compiler) : Request → Dialogue (Except ServiceError Value)
  | .catalog f => return (← Service.catalog c f).map Page.toJson
  | .search f => return (← Service.search c f).map fun cs => .list (cs.map Candidate.toJson)
  | .nfts f => return (← Service.nfts c f).map Page.toJson

/-- Nothing is printed unless all goes well. -/
def outcome : Except ε Value → Outcome
  | .ok v => .printed v
  | .error _ => .failed

def perform (s : Surroundings) (args : Arguments) : Dialogue Outcome :=
  match Config.load (s.file args.config) with
  | .error _ => .done .failed
  | .ok config =>
    let c := Compiler.ofConfig config
    match ((s.file args.filters).bind String.fromUTF8?).bind (Request.parse args.kind) with
    | none => .done .failed
    | some request =>
      if args.execute then
        if s.reachable config.dsn then return outcome (← request.answer c) else .done .failed
      else .done (outcome ((request.compile c).map Sql.Statement.toJson))

def run (s : Surroundings) (args : List String) : Dialogue Outcome :=
  match Arguments.parse args with
  | none => .done .badUsage
  | some args => perform s args

end MarketQuery.Explain
