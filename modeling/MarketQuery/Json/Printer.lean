import MarketQuery.Decimal.Shortest
import MarketQuery.Json.Value

namespace MarketQuery.Json

open Decimal (Layout Number)

/-- Numbers from a hundred-thousandth to below ten quadrillions are written without an exponent. -/
def floatLayout : Layout := ⟨-5, 15⟩

def writeNumber : Number → String
  | .int z => toString z
  | .float x => floatLayout.writeFloat x

def hexPad (n : Nat) : List Char :=
  let digits := Nat.toDigits 16 n
  List.replicate (4 - digits.length) '0' ++ digits

def escapeChar (c : Char) : List Char :=
  if c = '"' || c = '\\' then ['\\', c]
  else if c = '\x08' then ['\\', 'b']
  else if c = '\x0c' then ['\\', 'f']
  else if c = '\n' then ['\\', 'n']
  else if c = '\r' then ['\\', 'r']
  else if c = '\t' then ['\\', 't']
  else if c.toNat < 0x20 then '\\' :: 'u' :: hexPad c.toNat
  else [c]

def writeText (s : String) : String :=
  String.ofList ('"' :: s.toList.flatMap escapeChar ++ ['"'])

namespace Value

mutual

def compact : Value → String
  | .null => "null"
  | .bool b => if b then "true" else "false"
  | .number n => writeNumber n
  | .text s => writeText s
  | .list items => "[" ++ ",".intercalate (compactItems items) ++ "]"
  | .record members => "\x7b" ++ ",".intercalate (compactMembers members) ++ "\x7d"
  | .unreadable => "null"

def compactItems : List Value → List String
  | [] => []
  | v :: vs => compact v :: compactItems vs

def compactMembers : List (String × Value) → List String
  | [] => []
  | (name, v) :: rest => (writeText name ++ ":" ++ compact v) :: compactMembers rest

end

def indent (level : Nat) : String :=
  "\n" ++ String.ofList (List.replicate (2 * level) ' ')

def spread (level : Nat) (opening closing : String) : List String → String
  | [] => opening ++ closing
  | parts =>
    opening ++ indent (level + 1) ++ ("," ++ indent (level + 1)).intercalate parts ++
      indent level ++ closing

mutual

def prettyAt (level : Nat) : Value → String
  | .list items => spread level "[" "]" (prettyItems (level + 1) items)
  | .record members => spread level "\x7b" "\x7d" (prettyMembers (level + 1) members)
  | v => v.compact

def prettyItems (level : Nat) : List Value → List String
  | [] => []
  | v :: vs => prettyAt level v :: prettyItems level vs

def prettyMembers (level : Nat) : List (String × Value) → List String
  | [] => []
  | (name, v) :: rest => (writeText name ++ ": " ++ prettyAt level v) :: prettyMembers level rest

end

def pretty (v : Value) : String := v.prettyAt 0

end Value

end MarketQuery.Json
