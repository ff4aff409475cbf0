namespace MarketQuery.Decimal

structure Literal where
  negative : Bool
  whole : List Char
  fraction : Option (List Char)
  exponent : Option Int

inductive Number where
  | int (value : Int)
  | float (value : Float)

def digitValue (c : Char) : Nat := c.toNat - '0'.toNat

def natOfDigits (cs : List Char) : Nat := cs.foldl (fun n c => 10 * n + digitValue c) 0

def maxWord : Nat := UInt64.size - 1

/-- Takes in digits behind `n` while the result fits a word, and counts those left over. -/
def absorb (n : Nat) : List Char → Nat × Nat
  | [] => (n, 0)
  | c :: cs =>
    let next := 10 * n + digitValue c
    if next ≤ maxWord then absorb next cs else (n, (c :: cs).length)

def powerOfTen (e : Nat) : Float := OfScientific.ofScientific 1 false e

def maxPower : Nat := 308

/-- `x * 10 ^ e`, rounded at each step; nothing if it is out of range. Small exponents are worked
off in portions, and two of them turn any word into zero. -/
def scale (portions : Nat) (x : Float) (e : Int) : Option Float :=
  if e.natAbs ≤ maxPower then
    if e < 0 then some (x / powerOfTen e.natAbs)
    else
      let y := x * powerOfTen e.natAbs
      if y.isInf then none else some y
  else if x == 0 then some x
  else if e ≥ 0 then none
  else match portions with
    | 0 => some 0
    | portions + 1 => scale portions (x / powerOfTen maxPower) (e + maxPower)

namespace Literal

def isWhole (l : Literal) : Bool := l.fraction.isNone && l.exponent.isNone

/-- The integer that the literal stands for, if it is read as one: it has no fraction and no
exponent, and fits 64 bits. Minus zero is not. -/
def int? (l : Literal) : Option Int :=
  let n := natOfDigits l.whole
  if !l.isWhole then none
  else if l.negative then if 0 < n && n ≤ Int64.minValue.toInt.natAbs then some (-n) else none
  else if n ≤ maxWord then some n else none

def float? (l : Literal) : Option Float :=
  let (n, left) := absorb 0 l.whole
  let fraction := l.fraction.getD []
  let (m, cut) := absorb n fraction
  let e : Int := left - (fraction.length - cut : Nat) + l.exponent.getD 0
  (scale 4 (Float.ofNat m) e).map fun x => if l.negative then -x else x

def number? (l : Literal) : Option Number :=
  match l.int? with
  | some z => some (.int z)
  | none => l.float?.map .float

end Literal

end MarketQuery.Decimal
