import MarketQuery.Decimal.Literal

namespace MarketQuery.Json

open Decimal (Number)

/-- Members of a record keep the order in which they were written. -/
inductive Value where
  | null
  | bool (b : Bool)
  | number (n : Number)
  | text (s : String)
  | list (items : List Value)
  | record (members : List (String × Value))
  /-- A text with half of a surrogate pair in it, a record with such a name, or a number out of
  range. -/
  | unreadable
  deriving Inhabited

namespace Value

def int (z : Int) : Value := .number (.int z)

def texts (ss : List String) : Value := .list (ss.map .text)

def orNull (encode : α → Value) : Option α → Value
  | none => .null
  | some a => encode a

def member? (name : String) : Value → Option Value
  | .record members => (members.find? (·.1 == name)).map (·.2)
  | _ => none

mutual

def isReadable : Value → Bool
  | .unreadable => false
  | .list items => itemsReadable items
  | .record members => membersReadable members
  | _ => true

def itemsReadable : List Value → Bool
  | [] => true
  | v :: vs => isReadable v && itemsReadable vs

def membersReadable : List (String × Value) → Bool
  | [] => true
  | (_, v) :: rest => isReadable v && membersReadable rest

end

/-- Puts a member at its place in the order of names; a later one replaces an earlier one. -/
def insertMember (name : String) (v : Value) : List (String × Value) → List (String × Value)
  | [] => [(name, v)]
  | (n, w) :: rest =>
    if name < n then (name, v) :: (n, w) :: rest
    else if name = n then (name, v) :: rest
    else (n, w) :: insertMember name v rest

mutual

def sorted : Value → Value
  | .list items => .list (sortedItems items)
  | .record members => .record (sortedMembers members [])
  | v => v

def sortedItems : List Value → List Value
  | [] => []
  | v :: vs => sorted v :: sortedItems vs

def sortedMembers : List (String × Value) → List (String × Value) → List (String × Value)
  | [], done => done
  | (name, v) :: rest, done => sortedMembers rest (insertMember name (sorted v) done)

end

end Value

end MarketQuery.Json
