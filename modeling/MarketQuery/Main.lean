import MarketQuery.Explain.Command

namespace MarketQuery

def readFile? (path : String) : IO (Option ByteArray) :=
  try return some (← IO.FS.readBinFile path) catch _ => return none

end MarketQuery

open MarketQuery in
def main (args : List String) : IO UInt32 := do
  let files ← match Explain.Arguments.parse args with
    | some a => [a.config, a.filters].mapM fun path => return (path, ← readFile? path)
    | none => pure []
  let surroundings : Explain.Surroundings :=
    { file := fun path => (files.lookup path).join
      reachable := fun _ => false }
  let t := (Explain.run surroundings args).run []
  IO.print t.result.stdout
  return t.result.exit.toUInt32
