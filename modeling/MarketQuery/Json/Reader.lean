import MarketQuery.Json.Value
import MarketQuery.Text.Reader

namespace MarketQuery.Json

open Decimal (Literal)
open Text (Reader)

inductive Token where
  | value (v : Value)
  /-- A text; nothing if its surrogates do not pair up. -/
  | text (s : Option String)
  | openList
  | closeList
  | openRecord
  | closeRecord
  | comma
  | colon

def isBlank (c : Char) : Bool := c = ' ' || c = '\t' || c = '\n' || c = '\r'

def hexDigit? (c : Char) : Option Nat :=
  if '0' ≤ c && c ≤ '9' then some (c.toNat - '0'.toNat)
  else if 'a' ≤ c && c ≤ 'f' then some (c.toNat - 'a'.toNat + 10)
  else if 'A' ≤ c && c ≤ 'F' then some (c.toNat - 'A'.toNat + 10)
  else none

def hexNumber? (cs : List Char) : Option Nat :=
  cs.foldlM (fun n c => (hexDigit? c).map (16 * n + ·)) 0

def escape? : Char → Option Char
  | '"' => some '"'
  | '\\' => some '\\'
  | '/' => some '/'
  | 'b' => some '\x08'
  | 'f' => some '\x0c'
  | 'n' => some '\n'
  | 'r' => some '\r'
  | 't' => some '\t'
  | _ => none

def isHighSurrogate (n : Nat) : Bool := 0xD800 ≤ n && n < 0xDC00

def isLowSurrogate (n : Nat) : Bool := 0xDC00 ≤ n && n < 0xE000

def surrogatePair (high low : Nat) : Char :=
  Char.ofNat (0x10000 + (high - 0xD800) * 0x400 + (low - 0xDC00))

/-- The text up to its closing quote, and what follows. `done` is what has been read, last character
first; `high` is a high surrogate that waits for the other half; `sound` says whether all surrogates
before it were paired. -/
def scanText (done : List Char) (high : Option Nat) (sound : Bool) :
    List Char → Option (Option String × List Char)
  | [] => none
  | '"' :: r =>
    some (if sound && high.isNone then some (String.ofList done.reverse) else none, r)
  | '\\' :: 'u' :: a :: b :: c :: d :: r =>
    match hexNumber? [a, b, c, d] with
    | none => none
    | some n =>
      if isLowSurrogate n then
        match high with
        | some h => scanText (surrogatePair h n :: done) none sound r
        | none => scanText done none false r
      else if isHighSurrogate n then scanText done (some n) (sound && high.isNone) r
      else scanText (Char.ofNat n :: done) none (sound && high.isNone) r
  | '\\' :: c :: r =>
    match escape? c with
    | none => none
    | some e => scanText (e :: done) none (sound && high.isNone) r
  | c :: r =>
    if c.toNat < 0x20 then none else scanText (c :: done) none (sound && high.isNone) r

def isDigit (c : Char) : Bool := '0' ≤ c && c ≤ '9'

def readWhole : Reader (List Char) := do
  match ← Reader.takeWhile isDigit with
  | [] => Reader.fail
  | '0' :: _ :: _ => Reader.fail
  | cs => return cs

def readFraction : Reader (Option (List Char)) := do
  if ← Reader.accept ['.'] then return some (← Reader.takeWhile1 isDigit) else return none

def readExponent : Reader (Option Int) := do
  if (← Reader.accept ['e']) || (← Reader.accept ['E']) then
    let negative ← Reader.accept ['-']
    unless negative do discard <| Reader.accept ['+']
    let n := Decimal.natOfDigits (← Reader.takeWhile1 isDigit)
    return some (if negative then -(n : Int) else n)
  else return none

def readNumber : Reader Value := do
  let negative ← Reader.accept ['-']
  let whole ← readWhole
  let fraction ← readFraction
  let exponent ← readExponent
  let literal : Literal := ⟨negative, whole, fraction, exponent⟩
  return match literal.number? with
    | some n => .number n
    | none => .unreadable

def readToken : Reader Token := do
  let c ← Reader.next
  match c with
  | '[' => return .openList
  | ']' => return .closeList
  | '{' => return .openRecord
  | '}' => return .closeRecord
  | ',' => return .comma
  | ':' => return .colon
  | '"' => return .text (← fun r => scanText [] none true r)
  | 'n' => Reader.expect ['u', 'l', 'l']; return .value .null
  | 't' => Reader.expect ['r', 'u', 'e']; return .value (.bool true)
  | 'f' => Reader.expect ['a', 'l', 's', 'e']; return .value (.bool false)
  | _ =>
    modify (c :: ·)
    return .value (← readNumber)

/-- Every token takes a character away, so a text has no more tokens than characters. -/
def tokensFrom (fuel : Nat) (done : List Token) (cs : List Char) : Option (List Token) :=
  match fuel, cs.dropWhile isBlank with
  | _, [] => some done.reverse
  | 0, _ => none
  | fuel + 1, rest =>
    match readToken rest with
    | none => none
    | some (t, r) => tokensFrom fuel (t :: done) r

def tokens (s : String) : Option (List Token) :=
  tokensFrom s.length [] s.toList

/-- A list or record whose end is still to come; its parts are last first. -/
inductive Open where
  | list (items : List Value)
  | record (members : List (Option String × Value))
  /-- A record and the name of the member that comes next. -/
  | member (members : List (Option String × Value)) (name : Option String)

inductive Expected where
  | value
  | valueOrEnd
  | name
  | nameOrEnd
  | colon
  | commaOrEnd

inductive Progress where
  | within (stack : List Open) (expected : Expected)
  | complete (v : Value)

/-- A record one of whose names cannot be read cannot be read itself. -/
def closeRecord (members : List (Option String × Value)) : Value :=
  match members.reverse.mapM fun (name, v) => name.map (·, v) with
  | some ms => .record ms
  | none => .unreadable

def deliver (v : Value) : List Open → Option Progress
  | [] => some (.complete v)
  | .list items :: stack => some (.within (.list (v :: items) :: stack) .commaOrEnd)
  | .member members name :: stack =>
    some (.within (.record ((name, v) :: members) :: stack) .commaOrEnd)
  | .record _ :: _ => none

def Expected.takesValue : Expected → Bool
  | .value | .valueOrEnd => true
  | _ => false

def Progress.feed : Progress → Token → Option Progress
  | .complete _, _ => none
  | .within stack expected, token =>
    match token, expected, stack with
    | .text name, .name, .record members :: stack
    | .text name, .nameOrEnd, .record members :: stack =>
      some (.within (.member members name :: stack) .colon)
    | .colon, .colon, stack => some (.within stack .value)
    | .comma, .commaOrEnd, .list items :: stack => some (.within (.list items :: stack) .value)
    | .comma, .commaOrEnd, .record members :: stack =>
      some (.within (.record members :: stack) .name)
    | .closeList, .valueOrEnd, .list items :: stack
    | .closeList, .commaOrEnd, .list items :: stack => deliver (.list items.reverse) stack
    | .closeRecord, .nameOrEnd, .record members :: stack
    | .closeRecord, .commaOrEnd, .record members :: stack => deliver (closeRecord members) stack
    | .openList, expected, stack =>
      if expected.takesValue then some (.within (.list [] :: stack) .valueOrEnd) else none
    | .openRecord, expected, stack =>
      if expected.takesValue then some (.within (.record [] :: stack) .nameOrEnd) else none
    | .text s, expected, stack =>
      if expected.takesValue then deliver (s.elim .unreadable .text) stack else none
    | .value v, expected, stack => if expected.takesValue then deliver v stack else none
    | _, _, _ => none

def parse (s : String) : Option Value := do
  match ← (← tokens s).foldlM Progress.feed (.within [] .value) with
  | .complete v => return v
  | .within .. => failure

end MarketQuery.Json
