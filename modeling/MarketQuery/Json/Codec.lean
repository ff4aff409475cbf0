import MarketQuery.Json.Value

namespace MarketQuery

/-- A set of terms, each with a word that it is read back from. -/
class Vocabulary (α : Type) where
  word : α → String
  ofWord? : String → Option α
  ofWord?_word : ∀ a, ofWord? (word a) = some a

namespace Json

structure Codec (α : Type) where
  encode : α → Value
  decode : Value → Option α

/-- Every value is read back from what is written for it. -/
def Codec.Faithful (c : Codec α) : Prop := ∀ a, c.decode (c.encode a) = some a

namespace Codec

def text : Codec String where
  encode := .text
  decode
    | .text s => some s
    | _ => none

def bool : Codec Bool where
  encode := .bool
  decode
    | .bool b => some b
    | _ => none

/-- An integer, and never a number with a fraction or an exponent. -/
def word32 : Codec UInt32 where
  encode n := .int n.toNat
  decode
    | .number (.int z) => if 0 ≤ z ∧ z < UInt32.size then some (UInt32.ofNat z.toNat) else none
    | _ => none

def int64 : Codec Int64 where
  encode n := .int n.toInt
  decode
    | .number (.int z) =>
      if Int64.minValue.toInt ≤ z ∧ z ≤ Int64.maxValue.toInt then some (Int64.ofInt z) else none
    | _ => none

/-- A term is its word; an object with that word alone and nothing in it is read as the word. -/
def term [Vocabulary α] : Codec α where
  encode a := .text (Vocabulary.word a)
  decode
    | .text s => Vocabulary.ofWord? s
    | .record [(s, .null)] => Vocabulary.ofWord? s
    | _ => none

def list (c : Codec α) : Codec (List α) where
  encode as := .list (as.map c.encode)
  decode
    | .list vs => vs.mapM c.decode
    | _ => none

def nullable (c : Codec α) : Codec (Option α) where
  encode := Value.orNull c.encode
  decode
    | .null => some none
    | v => (c.decode v).map some

theorem faithful_text : text.Faithful := fun _ => rfl

theorem faithful_bool : bool.Faithful := fun _ => rfl

theorem faithful_word32 : word32.Faithful := fun n => by
  have h : 0 ≤ (n.toNat : Int) ∧ (n.toNat : Int) < UInt32.size := by
    have := n.toNat_lt_size
    omega
  unfold word32 Value.int
  dsimp only
  rw [if_pos h, Int.toNat_natCast, UInt32.ofNat_toNat]

theorem faithful_int64 : int64.Faithful := fun n => by
  have h : Int64.minValue.toInt ≤ n.toInt ∧ n.toInt ≤ Int64.maxValue.toInt :=
    ⟨n.minValue_le_toInt, n.toInt_le⟩
  unfold int64 Value.int
  dsimp only
  rw [if_pos h, Int64.ofInt_toInt]

theorem faithful_term [Vocabulary α] : (term : Codec α).Faithful :=
  fun a => Vocabulary.ofWord?_word a

theorem Faithful.list {c : Codec α} (h : c.Faithful) : c.list.Faithful := fun as => by
  show (as.map c.encode).mapM c.decode = some as
  induction as with
  | nil => rfl
  | cons a as ih => simp [h a, ih]

/-- Nothing can be told from something as long as no value is written as `null`. -/
theorem Faithful.nullable {c : Codec α} (h : c.Faithful) (hn : ∀ a, c.encode a ≠ .null) :
    c.nullable.Faithful := by
  intro a
  cases a with
  | none => rfl
  | some a =>
    have hv : c.nullable.decode (c.encode a) = (c.decode (c.encode a)).map some := by
      have := hn a
      revert this
      cases c.encode a <;> simp [Codec.nullable]
    show c.nullable.decode (c.encode a) = _
    rw [hv, h a]
    rfl

end Codec

structure Leeway where
  /-- Whether a list may be longer than the record has fields. -/
  spareItems : Bool
  /-- Whether a member that no field asks for may hold what cannot be read. -/
  unreadableMembers : Bool

/-- A list is no longer than the record; members that no field asks for are not looked into. -/
def Leeway.json : Leeway := ⟨false, true⟩

/-- Items behind the last field are not looked into; members that no field asks for are. -/
def Leeway.toml : Leeway := ⟨true, false⟩

structure RecordField (R : Type) where
  name : String
  write : R → Value
  read : Value → R → Option R
  /-- Whether a record cannot do without it. -/
  required : Bool

namespace RecordField

def optional (name : String) (c : Codec α) (get : R → α) (set : α → R → R) : RecordField R where
  name := name
  write r := c.encode (get r)
  read v r := (c.decode v).map (set · r)
  required := false

def mandatory (name : String) (c : Codec α) (get : R → α) (set : α → R → R) : RecordField R :=
  { optional name c get set with required := true }

def take (f : RecordField R) (r : R) : Option Value → Option R
  | some v => f.read v r
  | none => if f.required then none else some r

/-- What is given for each of the names: at most one member of an object, or an item of a list. -/
def given (leeway : Leeway) (names : List String) : Value → Option (List (Option Value))
  | .record members =>
    if leeway.unreadableMembers || members.all fun m => names.contains m.1 || m.2.isReadable then
      names.mapM fun name =>
        match members.filter (·.1 == name) with
        | [] => some none
        | [(_, v)] => some (some v)
        | _ => none
    else none
  | .list items =>
    if leeway.spareItems || items.length ≤ names.length then
      some (names.mapIdx fun i _ => items[i]?)
    else none
  | _ => none

def decodeRecord (leeway : Leeway) (fields : List (RecordField R)) (initial : R) (v : Value) :
    Option R := do
  let values ← given leeway (fields.map RecordField.name) v
  (fields.zip values).foldlM (fun r (f, v) => f.take r v) initial

def encodeRecord (fields : List (RecordField R)) (r : R) : Value :=
  .record (fields.map fun f => (f.name, f.write r))

end RecordField

end Json

end MarketQuery
