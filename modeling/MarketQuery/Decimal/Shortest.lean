namespace MarketQuery.Decimal

open Nat (pow)

/-- The number `significand * 2 ^ exponent`. -/
structure Binary where
  significand : Nat
  exponent : Int
  /-- The numbers below lie half as close together as those above. -/
  closeBelow : Bool

def Binary.ofFloat (x : Float) : Binary :=
  let bits := x.toBits.toNat
  let field : Nat := bits / pow 2 52 % pow 2 11
  let fraction : Nat := bits % pow 2 52
  if field = 0 then ⟨fraction, -1074, false⟩
  else ⟨pow 2 52 + fraction, (field : Int) - 1075, fraction = 0 && field != 1⟩

/-- Digits read as one number, and the power of ten they count. -/
structure Digits where
  value : Nat
  exponent : Int

def leading (n d : Nat) : Int :=
  let guess : Int := (Nat.toDigits 10 n).length - (Nat.toDigits 10 d).length
  if n * pow 10 (-guess).toNat ≥ d * pow 10 guess.toNat then guess else guess - 1

/-- The number of the grid `10 ^ e` that stands for `b` and is nearest to it, if there is one. An
exact tie goes to the even number. Everything is counted in quarters of the last binary place. -/
def Binary.onGrid (b : Binary) (e : Int) : Option Nat :=
  let grid := pow 10 e.toNat * pow 2 (2 - b.exponent).toNat
  let quarter := pow 2 (b.exponent - 2).toNat * pow 10 (-e).toNat
  let exact := 4 * b.significand * quarter
  let low := (4 * b.significand - if b.closeBelow then 1 else 2) * quarter
  let high := (4 * b.significand + 2) * quarter
  let stands (d : Nat) : Bool :=
    if b.significand % 2 = 0 then low ≤ d * grid && d * grid ≤ high
    else low < d * grid && d * grid < high
  let below := exact / grid
  match stands below, stands (below + 1) with
  | false, false => none
  | true, false => some below
  | false, true => some (below + 1)
  | true, true =>
    let toBelow := exact - below * grid
    let toAbove := (below + 1) * grid - exact
    if toBelow < toAbove || (toBelow = toAbove && below % 2 = 0) then some below
    else some (below + 1)

/-- The fewest digits that lie nearer to the number than to any other, and of several such the
nearest. Seventeen are always enough. -/
def Binary.shortest (b : Binary) : Digits :=
  let n := b.significand * pow 2 b.exponent.toNat
  let d := pow 2 (-b.exponent).toNat
  let first := leading n d
  let grids := (List.range 17).map fun (places : Nat) => first - places
  (grids.findSome? fun e => (b.onGrid e).map (Digits.mk · e)).getD ⟨0, 0⟩

def Digits.strip (fuel : Nat) (d : Digits) : Digits :=
  match fuel with
  | 0 => d
  | fuel + 1 => if d.value % 10 = 0 then strip fuel ⟨d.value / 10, d.exponent + 1⟩ else d

/-- How digits are laid out: the powers of ten of a first digit for which the number is written
without an exponent. -/
structure Layout where
  lowest : Int
  highest : Int

def zeros (n : Int) : String := String.ofList (List.replicate n.toNat '0')

def Layout.write (l : Layout) (d : Digits) : String :=
  let digits := Nat.toDigits 10 d.value
  let first : Int := d.exponent + digits.length - 1
  if l.lowest ≤ first && first ≤ l.highest then
    if first < 0 then "0." ++ zeros (-first - 1) ++ String.ofList digits
    else if digits.length ≤ first + 1 then
      String.ofList digits ++ zeros (first + 1 - digits.length) ++ ".0"
    else
      String.ofList (digits.take (first + 1).toNat) ++ "." ++
        String.ofList (digits.drop (first + 1).toNat)
  else
    let tail := if digits.length ≤ 1 then "" else "." ++ String.ofList (digits.drop 1)
    String.ofList (digits.take 1) ++ tail ++ (if first < 0 then "e-" else "e+") ++
      toString first.natAbs

def Layout.writeFloat (l : Layout) (x : Float) : String :=
  let b := Binary.ofFloat x
  let sign := if x.toBits.toNat / pow 2 63 = 1 then "-" else ""
  if b.significand = 0 then sign ++ "0.0" else sign ++ l.write (b.shortest.strip 17)

end MarketQuery.Decimal
