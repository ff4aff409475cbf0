namespace MarketQuery.Text

abbrev Reader := StateT (List Char) Option

namespace Reader

def fail : Reader α := fun _ => none

def rest : Reader (List Char) := get

def peek? : Reader (Option Char) := return (← rest).head?

def next : Reader Char := fun
  | [] => none
  | c :: cs => some (c, cs)

def takeWhile (p : Char → Bool) : Reader (List Char) := fun cs => some (cs.span p)

def takeWhile1 (p : Char → Bool) : Reader (List Char) := do
  match ← takeWhile p with
  | [] => fail
  | cs => return cs

def accept (expected : List Char) : Reader Bool := do
  if expected.isPrefixOf (← rest) then
    modify (·.drop expected.length)
    return true
  else return false

def expect (expected : List Char) : Reader Unit := do
  unless ← accept expected do fail

def atEnd : Reader Bool := return (← rest).isEmpty

def parse? (r : Reader α) (s : String) : Option α :=
  match r s.toList with
  | some (a, []) => some a
  | _ => none

end Reader

end MarketQuery.Text
