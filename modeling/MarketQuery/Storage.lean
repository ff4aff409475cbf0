import MarketQuery.Json.Printer
import MarketQuery.Sql.Batch

namespace MarketQuery

open Json (Value)
open Sql (Batch Statement)

structure Candidate where
  id : String
  wordSimilarity : Float
  matchType : String
  word : String

structure Page where
  rows : List Value := []
  total : Int := 0

inductive StorageError where
  /-- The database refuses; it says why. -/
  | database (text : String)
  /-- There is nothing to send. -/
  | vacuous
  | decode (column : String) (detail : String)

namespace StorageError

def databaseMessage (text : String) : String := "error returned from database: " ++ text

def vacuousDetail : String := "Statement has no SQL text."

def message : StorageError → String
  | .database text => databaseMessage text
  | .vacuous => "Invalid argument: " ++ vacuousDetail
  | .decode column detail => "Failed to decode " ++ column ++ ": " ++ detail

end StorageError

inductive Reply where
  | rows (rows : List Value)
  | candidates (candidates : List Candidate)
  | failure (text : String)

/-- Questions to the database that are not known beforehand: what follows one depends on the reply
to it. -/
inductive Dialogue (α : Type) where
  | done (a : α)
  | ask (question : Batch) (next : Reply → Dialogue α)

namespace Dialogue

def bind : Dialogue α → (α → Dialogue β) → Dialogue β
  | .done a, k => k a
  | .ask q next, k => .ask q fun r => bind (next r) k

instance : Monad Dialogue where
  pure := .done
  bind := bind

/-- What the database says when it has stopped replying. -/
def silence : String := "connection closed"

structure Transcript (α : Type) where
  result : α
  questions : List Batch
  /-- The replies that were not needed. -/
  unused : List Reply

/-- The dialogue with a database that gives these replies in turn. -/
def run : Dialogue α → List Reply → Transcript α
  | .done a, replies => ⟨a, [], replies⟩
  | .ask q next, replies =>
    let t := run (next (replies.headD (.failure silence))) replies.tail
    { t with questions := q :: t.questions }

end Dialogue

namespace Storage

def catalogTotal : String := "total_rows"

def nftTotal : String := "count"

def fetch (question : Option Batch) (read : Reply → Except StorageError α) :
    Dialogue (Except StorageError α) :=
  match question with
  | none => .done (.error .vacuous)
  | some q => .ask q fun r => .done (read r)

def readRows : Reply → Except StorageError (List Value)
  | .rows rows => .ok rows
  | .candidates _ => .error (.decode "row" "Expected one column.")
  | .failure text => .error (.database text)

def readCandidates : Reply → Except StorageError (List Candidate)
  | .candidates cs => .ok cs
  | .rows _ => .error (.decode "id" "Expected ranked candidates.")
  | .failure text => .error (.database text)

def fetchRows (s : Statement) : Dialogue (Except StorageError (List Value)) :=
  fetch s.jsonRows readRows

def fetchCandidates (s : Statement) : Dialogue (Except StorageError (List Candidate)) :=
  fetch s.plain readCandidates

def isWord64 (z : Int) : Bool := Int64.minValue.toInt ≤ z && z ≤ Int64.maxValue.toInt

/-- The number of rows on all pages, as the first row has it. A page without rows has none. -/
def pageTotal (rows : List Value) (column : String) : Except StorageError Int :=
  match rows with
  | [] => .ok 0
  | first :: _ =>
    match first.member? column with
    | none => .error (.decode column "Column is missing from the row.")
    | some (.number (.int z)) =>
      if isWord64 z then .ok z
      else .error (.decode column (toString z ++ " is not an integer."))
    | some (.number n) => .error (.decode column (Json.writeNumber n ++ " is not an integer."))
    | some v => .error (.decode column ("Expected a number, got " ++ v.compact ++ "."))

def fetchPage (s : Statement) (column : String) : Dialogue (Except StorageError Page) := do
  let rows ← fetchRows s
  return do
    let rows ← rows
    return ⟨rows, ← pageTotal rows column⟩

/-- Whole milliseconds, as many as a word holds. -/
def elapsedMs (seconds nanoseconds : Nat) : Nat :=
  min (seconds * 1000 + nanoseconds / 1000000) (UInt64.size - 1)

end Storage

end MarketQuery
