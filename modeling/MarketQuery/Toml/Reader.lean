import MarketQuery.Json.Reader
import MarketQuery.Toml.Value

namespace MarketQuery.Toml

open Text (Reader)
open Text.Reader
open Json (hexDigit? hexNumber? isDigit)

def isBlank (c : Char) : Bool := c = ' ' || c = '\t'

/-- Control characters other than the tab stand nowhere in a document. -/
def isControl (c : Char) : Bool := (c.toNat < 0x20 && c != '\t') || c = '\x7f'

def isBareKeyChar (c : Char) : Bool := c.isAlphanum || c = '_' || c = '-'

def skipBlanks : Reader Unit := discard <| takeWhile isBlank

def lineBreak : Reader (List Char) := do
  if ← accept ['\n'] then return ['\n']
  else if ← accept ['\r', '\n'] then return ['\r', '\n']
  else return []

def newline : Reader Bool := return !(← lineBreak).isEmpty

def comment : Reader Unit := do
  if ← accept ['#'] then discard <| takeWhile fun c => !isControl c

def lineEnd : Reader Unit := do
  skipBlanks
  comment
  unless ← newline do
    unless ← atEnd do fail

def skipLinesWithin : Nat → Reader Unit
  | 0 => return
  | fuel + 1 => do
    skipBlanks
    comment
    if ← newline then skipLinesWithin fuel

def skipLines : Reader Unit := do skipLinesWithin ((← rest).length + 1)

def scalar (n : Nat) : Reader Char :=
  if n.isValidChar then return Char.ofNat n else fail

def hexDigits (count : Nat) : Reader Nat := do
  let cs := (← rest).take count
  modify (·.drop count)
  if cs.length < count then fail
  match hexNumber? cs with
  | some n => return n
  | none => fail

def escaped : Reader Char := do
  match ← next with
  | 'b' => return '\x08'
  | 't' => return '\t'
  | 'n' => return '\n'
  | 'f' => return '\x0c'
  | 'r' => return '\r'
  | 'e' => return '\x1b'
  | '"' => return '"'
  | '\\' => return '\\'
  | 'x' => scalar (← hexDigits 2)
  | 'u' => scalar (← hexDigits 4)
  | 'U' => scalar (← hexDigits 8)
  | _ => fail

def basicText (done : List Char) : Nat → Reader String
  | 0 => fail
  | fuel + 1 => do
    match ← next with
    | '"' => return String.ofList done.reverse
    | '\\' => basicText ((← escaped) :: done) fuel
    | c => if isControl c then fail else basicText (c :: done) fuel

def literalText : Reader String := do
  let cs ← takeWhile fun c => c != '\'' && !isControl c
  expect ['\'']
  return String.ofList cs

def skipSpaceWithin : Nat → Reader Unit
  | 0 => return
  | fuel + 1 => do
    skipBlanks
    if ← newline then skipSpaceWithin fuel

/-- A backslash before the end of a line takes away all white space up to the next character. -/
def foldedLine : Reader Unit := do
  skipBlanks
  unless ← newline do fail
  skipSpaceWithin ((← rest).length + 1)

/-- A text over several lines, up to three quotes; one or two more before them belong to it. Line
breaks stay as they are written. -/
def longText (quote : Char) (escapes : Bool) (done : List Char) : Nat → Reader String
  | 0 => fail
  | fuel + 1 => do
    let quotes ← takeWhile (· == quote)
    if 5 < quotes.length then fail
    if 3 ≤ quotes.length then
      return String.ofList (done.reverse ++ quotes.drop 3)
    let done := quotes ++ done
    let ended ← lineBreak
    if !ended.isEmpty then longText quote escapes (ended.reverse ++ done) fuel
    else
      match ← next with
      | '\\' =>
        if escapes then
          match ← peek? with
          | some c =>
            if isBlank c || c = '\n' || c = '\r' then
              foldedLine
              longText quote escapes done fuel
            else longText quote escapes ((← escaped) :: done) fuel
          | none => fail
        else longText quote escapes ('\\' :: done) fuel
      | c => if isControl c then fail else longText quote escapes (c :: done) fuel

/-- A line break right behind the opening quotes is not part of the text. -/
def readLongText (quote : Char) (escapes : Bool) : Reader String := do
  discard newline
  longText quote escapes [] ((← rest).length + 1)

def readText : Reader String := do
  if ← accept ['"', '"', '"'] then readLongText '"' true
  else if ← accept ['\'', '\'', '\''] then readLongText '\'' false
  else if ← accept ['"'] then basicText [] ((← rest).length + 1)
  else if ← accept ['\''] then literalText
  else fail

def readKeyPart : Reader String := do
  if ← accept ['"'] then basicText [] ((← rest).length + 1)
  else if ← accept ['\''] then literalText
  else return String.ofList (← takeWhile1 isBareKeyChar)

def readKeyWithin (done : List String) : Nat → Reader (List String × String)
  | 0 => fail
  | fuel + 1 => do
    let part ← readKeyPart
    skipBlanks
    if ← accept ['.'] then
      skipBlanks
      readKeyWithin (part :: done) fuel
    else return (done.reverse, part)

def maxKeyParts : Nat := 80

def readKey : Reader (List String × String) := readKeyWithin [] maxKeyParts

/-- Digits in groups that single underscores part. -/
def groupedDigits (isDigit : Char → Bool) (cs : List Char) : Option (List Char) :=
  let groups := cs.splitOn '_'
  if groups.all fun g => !g.isEmpty && g.all isDigit then some groups.flatten else none

def plainDigits (cs : List Char) : Option (List Char) :=
  match cs with
  | '0' :: _ :: _ => none
  | _ => groupedDigits isDigit cs

def splitSign : List Char → Bool × List Char
  | '-' :: cs => (true, cs)
  | '+' :: cs => (false, cs)
  | cs => (false, cs)

def radixNumber (base : Nat) (isDigit : Char → Bool) (cs : List Char) : Option Int :=
  (groupedDigits isDigit cs).map fun ds =>
    (ds.foldl (fun n c => base * n + (hexDigit? c).getD 0) 0 : Nat)

def maxInteger : Int := (Nat.pow 2 128 : Int) - 1

def minInteger : Int := -(Nat.pow 2 127 : Int)

def integer? : List Char → Option Int
  | '0' :: 'x' :: cs => radixNumber 16 (fun c => (hexDigit? c).isSome) cs
  | '0' :: 'o' :: cs => radixNumber 8 (fun c => '0' ≤ c && c ≤ '7') cs
  | '0' :: 'b' :: cs => radixNumber 2 (fun c => c = '0' || c = '1') cs
  | cs =>
    let (negative, ds) := splitSign cs
    (plainDigits ds).map fun ds =>
      let n : Int := Decimal.natOfDigits ds
      if negative then -n else n

/-- Whether `digits * 10 ^ e` rounds to more than the greatest floating-point number. -/
def overflows (digits : List Char) (e : Int) : Bool :=
  let n := Decimal.natOfDigits digits
  let bound := Nat.pow 2 1024 - Nat.pow 2 970
  if n = 0 || digits.length + e ≤ 308 then false
  else if 400 < e then true
  else bound * Nat.pow 10 (-e).toNat ≤ n * Nat.pow 10 e.toNat

def isExponentMark (c : Char) : Bool := c = 'e' || c = 'E'

/-- Floating-point numbers are known for what they are, and for being in range; no setting is one.
-/
def float? (cs : List Char) : Option Value :=
  let (_, cs) := splitSign cs
  if cs = ['i', 'n', 'f'] || cs = ['n', 'a', 'n'] then some .float
  else
    let mantissa := cs.takeWhile (! isExponentMark ·)
    let exponent? : Option (Option Int) :=
      match cs.dropWhile (! isExponentMark ·) with
      | [] => some none
      | _ :: es =>
        let (negative, es) := splitSign es
        (groupedDigits isDigit es).map fun ds =>
          let n : Int := Decimal.natOfDigits ds
          some (if negative then -n else n)
    let parts? : Option (List Char × Option (List Char)) :=
      match mantissa.span (· != '.') with
      | (whole, []) => (plainDigits whole).map (·, none)
      | (whole, _ :: fraction) => do
        return (← plainDigits whole, some (← groupedDigits isDigit fraction))
    match parts?, exponent? with
    | some (whole, fraction), some exponent =>
      if fraction.isNone && exponent.isNone then none
      else if overflows (whole ++ fraction.getD []) (exponent.getD 0 - (fraction.getD []).length) then
        some .outOfRange
      else some .float
    | _, _ => none

def digits (count : Nat) : Reader Nat := do
  let cs := (← rest).take count
  modify (·.drop count)
  if cs.length = count && cs.all isDigit then return Decimal.natOfDigits cs else fail

def require (holds : Bool) : Reader Unit := unless holds do fail

def daysIn (year month : Nat) : Nat :=
  if month = 2 then if year % 4 = 0 && (year % 100 != 0 || year % 400 = 0) then 29 else 28
  else if month = 4 || month = 6 || month = 9 || month = 11 then 30
  else 31

def readDate : Reader Unit := do
  let year ← digits 4
  expect ['-']
  let month ← digits 2
  expect ['-']
  let day ← digits 2
  require (1 ≤ month && month ≤ 12 && 1 ≤ day && day ≤ daysIn year month)

/-- Seconds may be left out. -/
def readTime : Reader Unit := do
  let hour ← digits 2
  expect [':']
  let minute ← digits 2
  require (hour ≤ 23 && minute ≤ 59)
  if ← accept [':'] then
    require ((← digits 2) ≤ 60)
    if ← accept ['.'] then discard <| takeWhile1 isDigit

def readOffset : Reader Unit := do
  if (← accept ['Z']) || (← accept ['z']) then return
  if (← accept ['+']) || (← accept ['-']) then
    let hour ← digits 2
    expect [':']
    let minute ← digits 2
    require (hour ≤ 23 && minute ≤ 59)

def readMoment : Reader Unit := do
  if (← rest)[2]? = some ':' then readTime
  else
    readDate
    unless ← atEnd do
      match ← next with
      | 'T' | 't' | ' ' =>
        readTime
        readOffset
      | _ => fail

def isMoment (cs : List Char) : Bool :=
  match readMoment cs with
  | some ((), []) => true
  | _ => false

def isWordChar (c : Char) : Bool :=
  c.isAlphanum || c = '+' || c = '-' || c = '_' || c = '.' || c = ':'

/-- A run of the characters that numbers and moments are made of. A date and a time may have a space
between them. -/
def readWord : Reader (List Char) := do
  let word ← takeWhile1 isWordChar
  match ← rest with
  | ' ' :: c :: _ =>
    if isDigit c && isMoment word && word[4]? = some '-' && word.length = 10 then
      discard next
      return word ++ ' ' :: (← takeWhile1 isWordChar)
    else return word
  | _ => return word

def wordValue (word : List Char) : Option Value :=
  if word = ['t', 'r', 'u', 'e'] then some (.bool true)
  else if word = ['f', 'a', 'l', 's', 'e'] then some (.bool false)
  else match integer? word with
    | some z => some (if minInteger ≤ z ∧ z ≤ maxInteger then .integer z else .outOfRange)
    | none => float? word <|> if isMoment word then some .moment else none

def readSimple : Reader Value := do
  match ← peek? with
  | some '"' | some '\'' => return .text (← readText)
  | _ =>
    match wordValue (← readWord) with
    | some v => return v
    | none => fail

def listItems (item : Reader Value) (done : List Value) : Nat → Reader Value
  | 0 => fail
  | fuel + 1 => do
    skipLines
    if ← accept [']'] then return .list done.reverse
    let v ← item
    skipLines
    if ← accept [','] then listItems item (v :: done) fuel
    else
      expect [']']
      return .list (v :: done).reverse

def readMember (gap : Reader Unit) (item : Reader Value) :
    Reader (List String × String × Value) := do
  let (path, name) ← readKey
  gap
  expect ['=']
  gap
  return (path, name, ← item)

def inlineMembers (item : Reader Value) (done : Members) : Nat → Reader Value
  | 0 => fail
  | fuel + 1 => do
    skipLines
    if ← accept ['}'] then return .table .inline done
    let (path, name, v) ← readMember skipLines item
    match done.assign name v path with
    | none => fail
    | some done =>
      skipLines
      if ← accept [','] then inlineMembers item done fuel
      else
        expect ['}']
        return .table .inline done

def maxDepth : Nat := 80

def readValue : Nat → Reader Value
  | 0 => readSimple
  | depth + 1 => do
    if ← accept ['['] then listItems (readValue depth) [] ((← rest).length + 1)
    else if ← accept ['{'] then inlineMembers (readValue depth) [] ((← rest).length + 1)
    else readSimple

def readHeading : Reader Heading := do
  expect ['[']
  let repeated ← accept ['[']
  skipBlanks
  let (path, name) ← readKey
  expect (if repeated then [']', ']'] else [']'])
  return ⟨path, name, repeated⟩

def readLine (d : Document) : Reader Document := do
  let orFail : Option Document → Reader Document := fun
    | some d => return d
    | none => fail
  skipBlanks
  match ← peek? with
  | none | some '#' | some '\n' | some '\r' => return d
  | some '[' => orFail (d.openTable (← readHeading))
  | some _ =>
    let (path, name, v) ← readMember skipBlanks (readValue maxDepth)
    orFail (d.add path name v)

def readLines (d : Document) : Nat → Reader Document
  | 0 => fail
  | fuel + 1 => do
    if ← atEnd then return d
    let d ← readLine d
    lineEnd
    readLines d fuel

def readDocument : Reader Members := do
  discard <| accept ['\uFEFF']
  let d ← readLines .empty ((← rest).length + 1)
  match d.close with
  | some ms => return ms
  | none => fail

def parse (s : String) : Option Value :=
  (readDocument.parse? s).map (.table .header)

end MarketQuery.Toml
