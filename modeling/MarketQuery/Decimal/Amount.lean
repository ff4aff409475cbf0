namespace MarketQuery.Decimal

def isDigit (c : Char) : Bool := '0' ≤ c && c ≤ '9'

def isAmount (s : String) : Bool := !s.isEmpty && s.toList.all isDigit

def stripZeros (cs : List Char) : List Char := cs.dropWhile (· == '0')

/-- The order of digit strings of one length. -/
def compareDigits : List Char → List Char → Ordering
  | [], [] => .eq
  | [], _ :: _ => .lt
  | _ :: _, [] => .gt
  | a :: as, b :: bs => (compare a b).then (compareDigits as bs)

/-- The order of amounts, which are never turned into machine numbers: without leading zeros the
longer one is the greater. -/
def compareAmounts (a b : String) : Ordering :=
  let a := stripZeros a.toList
  let b := stripZeros b.toList
  (compare a.length b.length).then (compareDigits a b)

end MarketQuery.Decimal
