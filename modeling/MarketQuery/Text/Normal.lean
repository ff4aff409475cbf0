import MarketQuery.Text.Lowercase.Context
import MarketQuery.Text.Lowercase.Runs

namespace MarketQuery.Text

/-- The White_Space property. Zero-width characters and the four information separators are not
in it. -/
def isSpace (c : Char) : Bool :=
  let n := c.toNat
  (0x9 ≤ n && n ≤ 0xD) || n == 0x20 || n == 0x85 || n == 0xA0 || n == 0x1680 ||
    (0x2000 ≤ n && n ≤ 0x200A) || n == 0x2028 || n == 0x2029 || n == 0x202F || n == 0x205F ||
    n == 0x3000

def trimChars (cs : List Char) : List Char :=
  ((cs.dropWhile isSpace).reverse.dropWhile isSpace).reverse

def trim (s : String) : String :=
  String.ofList (trimChars s.toList)

def isBlank (s : String) : Bool :=
  s.toList.all isSpace

/-- Capital I with a dot keeps its dot as a combining mark. -/
def lowerChar (c : Char) : List Char :=
  if c = 'İ' then ['i', '\u0307']
  else match caseRuns.find? (·.covers c.toNat) with
    | some r => [Char.ofNat (r.lower c.toNat)]
    | none => [c]

/-- Whether the nearest character that case does not pass over is a cased one. -/
def reachesCased (cs : List Char) : Bool :=
  match cs.dropWhile isCaseIgnorable with
  | c :: _ => isCased c
  | [] => false

/-- The small letter of a capital sigma: the final form behind a cased letter and before none. -/
def lowerSigma (before after : List Char) : Char :=
  if reachesCased before && !reachesCased after then 'ς' else 'σ'

/-- Lowercases what follows the characters `before`, which are given nearest first. -/
def lowerFrom (before : List Char) : List Char → List Char
  | [] => []
  | c :: after =>
    (if c = 'Σ' then [lowerSigma before after] else lowerChar c) ++ lowerFrom (c :: before) after

def lowercase (s : String) : String :=
  String.ofList (lowerFrom [] s.toList)

end MarketQuery.Text
