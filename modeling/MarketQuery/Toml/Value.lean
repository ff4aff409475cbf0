import MarketQuery.Json.Value

namespace MarketQuery.Toml

inductive TableKind where
  /-- Written between braces; nothing is ever added. -/
  | inline
  /-- Opened by a header of its own; only headers add to it later. -/
  | header
  /-- On the way to a table with a header; its own header may still come. -/
  | implied
  /-- On the way of a dotted key; further dotted keys may add to it, but no header opens it. -/
  | dotted
  deriving DecidableEq

inductive Value where
  | text (s : String)
  | integer (z : Int)
  | float
  /-- A number beyond those that a reader takes. -/
  | outOfRange
  | bool (b : Bool)
  /-- A date, a time, or both. -/
  | moment
  | list (items : List Value)
  | table (kind : TableKind) (members : List (String × Value))
  /-- Tables with repeated headers, the latest first. -/
  | tables (latestFirst : List (List (String × Value)))
  deriving Inhabited

abbrev Members := List (String × Value)

namespace Members

def get? (ms : Members) (name : String) : Option Value :=
  (ms.find? (·.1 == name)).map (·.2)

def replace (ms : Members) (name : String) (v : Value) : Members :=
  ms.map fun m => if m.1 == name then (name, v) else m

/-- Adds a member by a dotted key, of which `path` is all but the last part. Tables on the way are
made where there are none, and tables that were only implied become dotted; tables that have a
header or braces are closed to it. -/
def assign (name : String) (v : Value) : List String → Members → Option Members
  | [], ms => if (ms.get? name).isSome then none else some (ms ++ [(name, v)])
  | p :: path, ms =>
    match ms.get? p with
    | none => (assign name v path []).map fun sub => ms ++ [(p, .table .dotted sub)]
    | some (.table kind sub) =>
      if kind = .dotted || kind = .implied then
        (assign name v path sub).map fun sub => ms.replace p (.table .dotted sub)
      else none
    | some (.tables (latest :: earlier)) =>
      if path.isEmpty then none
      else (assign name v path latest).map fun sub => ms.replace p (.tables (sub :: earlier))
    | some _ => none

/-- Changes the table that a header's path leads to. A path goes through the latest of repeated
tables. -/
def alter (change : Members → Option Members) : List String → Members → Option Members
  | [], ms => change ms
  | p :: path, ms =>
    match ms.get? p with
    | none => (alter change path []).map fun sub => ms ++ [(p, .table .implied sub)]
    | some (.table .inline _) => none
    | some (.table kind sub) =>
      (alter change path sub).map fun sub => ms.replace p (.table kind sub)
    | some (.tables (latest :: earlier)) =>
      (alter change path latest).map fun sub => ms.replace p (.tables (sub :: earlier))
    | some _ => none

end Members

structure Heading where
  path : List String
  name : String
  repeated : Bool

structure Document where
  root : Members
  heading : Option Heading
  current : Members

namespace Document

def empty : Document := ⟨[], none, []⟩

def close (d : Document) : Option Members :=
  match d.heading with
  | none => some d.current
  | some h =>
    d.root.alter (fun ms =>
      if h.repeated then
        match ms.get? h.name with
        | none => some (ms ++ [(h.name, .tables [d.current])])
        | some (.tables earlier) => some (ms.replace h.name (.tables (d.current :: earlier)))
        | some _ => none
      else
        match ms.get? h.name with
        | none => some (ms ++ [(h.name, .table .header d.current)])
        | some (.table .implied _) => some (ms.replace h.name (.table .header d.current))
        | some _ => none) h.path

/-- What a header finds in its place: the members of a table that was only implied. -/
def found (h : Heading) : List String → Members → Option Members
  | [], ms =>
    match ms.get? h.name, h.repeated with
    | none, _ => some []
    | some (.tables _), true => some []
    | some (.table .implied sub), false => some sub
    | some _, _ => none
  | p :: path, ms =>
    match ms.get? p with
    | none => some []
    | some (.table .inline _) => none
    | some (.table _ sub) => found h path sub
    | some (.tables (latest :: _)) => found h path latest
    | some _ => none

def openTable (d : Document) (h : Heading) : Option Document := do
  let root ← d.close
  return ⟨root, some h, ← found h h.path root⟩

def add (d : Document) (path : List String) (name : String) (v : Value) : Option Document :=
  (d.current.assign name v path).map fun ms => { d with current := ms }

end Document

mutual

/-- The same value in JSON. A moment has no members that anything asks for. -/
def Value.toJson : Value → Json.Value
  | .text s => .text s
  | .integer z => .int z
  | .float => .number (.float 0)
  | .outOfRange => .unreadable
  | .bool b => .bool b
  | .moment => .record []
  | .list items => .list (itemsToJson items)
  | .table _ members => .record (membersToJson members)
  | .tables latestFirst => .list (tablesToJson latestFirst).reverse

def itemsToJson : List Value → List Json.Value
  | [] => []
  | v :: vs => v.toJson :: itemsToJson vs

def membersToJson : List (String × Value) → List (String × Json.Value)
  | [] => []
  | (name, v) :: rest => (name, v.toJson) :: membersToJson rest

def tablesToJson : List (List (String × Value)) → List Json.Value
  | [] => []
  | t :: ts => .record (membersToJson t) :: tablesToJson ts

end

end MarketQuery.Toml
