import MarketQuery.Decimal.Amount
import MarketQuery.Sql.Template
import Mathlib.Data.List.Forall2

namespace MarketQuery.Sql

inductive Slot where
  | text
  /-- Text that is an amount in decimal digits. -/
  | amount
  /-- A list that is not empty. -/
  | texts
  /-- The list of contracts that the settings name. -/
  | contracts
  | bool
  | int
  deriving DecidableEq

def Slot.Holds (contracts : List String) : Slot → Param → Prop
  | .text, p => ∃ s, p = .text s
  | .amount, p => ∃ s, p = .text s ∧ Decimal.isAmount s = true
  | .texts, p => ∃ ss, p = .textArray ss ∧ ss ≠ []
  | .contracts, p => p = .textArray contracts
  | .bool, p => ∃ b, p = .bool b
  | .int, p => ∃ z, p = .int z

section Slots

variable {contracts : List String} {α : Type} {o : Option α}

theorem Slot.text_of_map {g : α → String} :
    ∀ p, (o.map fun a => .text (g a)) = some p → Slot.text.Holds contracts p := by
  rintro p hp
  obtain ⟨a, -, rfl⟩ := Option.map_eq_some_iff.mp hp
  exact ⟨g a, rfl⟩

theorem Slot.amount_of_map {o : Option String} (h : ∀ s, o = some s → Decimal.isAmount s = true) :
    ∀ p, o.map .text = some p → Slot.amount.Holds contracts p := by
  rintro p hp
  obtain ⟨s, hs, rfl⟩ := Option.map_eq_some_iff.mp hp
  exact ⟨s, rfl, h s hs⟩

theorem Slot.bool_of_map {o : Option Bool} :
    ∀ p, o.map .bool = some p → Slot.bool.Holds contracts p := by
  rintro p hp
  obtain ⟨b, -, rfl⟩ := Option.map_eq_some_iff.mp hp
  exact ⟨b, rfl⟩

theorem Slot.int_of_map {o : Option Int64} :
    ∀ p, o.map .int = some p → Slot.int.Holds contracts p := by
  rintro p hp
  obtain ⟨z, -, rfl⟩ := Option.map_eq_some_iff.mp hp
  exact ⟨z, rfl⟩

end Slots

/-- What is fixed about a text before the request is known, where parts may be missing or differ,
and what kind of value stands in each place. -/
inductive Sketch where
  | empty
  | text (cs : List Char)
  /-- A schema name. -/
  | name
  /-- A number in decimal digits. -/
  | number
  | value (slot : Slot)
  | append (a b : Sketch)
  | either (a b : Sketch)

namespace Sketch

def oneOf (ks : List Sketch) : Sketch := ks.foldr .either .empty

/-- The fragments that are drawn after a sketch. -/
inductive Draws (schemas : Schemas) (contracts : List String) : Sketch → Fragment → Prop where
  | empty : Draws schemas contracts .empty .empty
  | literal {cs : List Char} : Draws schemas contracts (.text cs) (.text (String.ofList cs))
  | name {role : SchemaRole} : Draws schemas contracts .name (.text (schemas.name role))
  | number {n : Nat} : Draws schemas contracts .number (.text (toString n))
  | value {slot : Slot} {p : Param} (h : slot.Holds contracts p) :
    Draws schemas contracts (.value slot) (.bind p)
  | append {a b : Sketch} {x y : Fragment} (hx : Draws schemas contracts a x)
    (hy : Draws schemas contracts b y) : Draws schemas contracts (.append a b) (x ++ y)
  | left {a b : Sketch} {x : Fragment} (h : Draws schemas contracts a x) :
    Draws schemas contracts (.either a b) x
  | right {a b : Sketch} {x : Fragment} (h : Draws schemas contracts b x) :
    Draws schemas contracts (.either a b) x

namespace Draws

variable {schemas : Schemas} {contracts : List String} {a b : Sketch}

theorem bound (s : String) : Draws schemas contracts (.value .text) (.bind (.text s)) :=
  value ⟨s, rfl⟩

theorem texts {ss : List String} (h : ss ≠ []) :
    Draws schemas contracts (.value .texts) (.bind (.textArray ss)) :=
  value ⟨ss, rfl, h⟩

theorem settled : Draws schemas contracts (.value .contracts) (.bind (.textArray contracts)) :=
  value rfl

/-- A template ends with a stretch of text. -/
theorem last {cs : List Char} :
    Draws schemas contracts (.append (.text cs) .empty)
      (Template.fill schemas [.text (String.ofList cs)]) :=
  append literal empty

/-- In a template, a schema name stands behind a stretch of text. -/
theorem piece {cs : List Char} {role : SchemaRole} {t : Template}
    (h : Draws schemas contracts a (t.fill schemas)) :
    Draws schemas contracts (.append (.text cs) (.append .name a))
      (Template.fill schemas (.text (String.ofList cs) :: .schema role :: t)) :=
  append literal (append name h)

theorem glued {cs ds : List Char} {t : Template}
    (h : Draws schemas contracts a (Template.fill schemas (.text (String.ofList ds) :: t))) :
    Draws schemas contracts (.append (.text cs) a)
      (Template.fill schemas (.text (String.ofList cs) :: .text (String.ofList ds) :: t)) :=
  append literal h

theorem text_append {s t : String} (hs : Draws schemas contracts a (.text s))
    (ht : Draws schemas contracts b (.text t)) :
    Draws schemas contracts (.append a b) (.text (s ++ t)) := by
  rw [Fragment.text_append]
  exact append hs ht

theorem ite {c : Prop} [Decidable c] {x y : Fragment} (hx : c → Draws schemas contracts a x)
    (hy : ¬ c → Draws schemas contracts b y) :
    Draws schemas contracts (.either a b) (if c then x else y) := by
  split
  · exact left (hx ‹_›)
  · exact right (hy ‹_›)

theorem of_mem {α : Type} {ks : List Sketch} {as : List α} {g : α → Fragment}
    (h : List.Forall₂ (fun k a => Draws schemas contracts k (g a)) ks as) :
    ∀ a ∈ as, Draws schemas contracts (oneOf ks) (g a) := by
  induction h with
  | nil => simp
  | @cons k a ks as hk _ ih =>
    intro c hc
    rcases List.mem_cons.mp hc with rfl | hc
    · exact left hk
    · exact right (ih c hc)

theorem nil : Draws schemas contracts .empty (.concat []) := empty

theorem cons {f : Fragment} {fs : List Fragment} (hf : Draws schemas contracts a f)
    (hs : Draws schemas contracts b (.concat fs)) :
    Draws schemas contracts (.append a b) (.concat (f :: fs)) :=
  append hf hs

end Draws

end Sketch

/-- A way to read sketches from left to right, keeping something in mind about what has been read.
Where a step fails, the sketch does not pass. -/
structure Reading (σ : Type) where
  text : List Char → σ → Option σ
  name : σ → Option σ
  number : σ → Option σ
  value : Slot → σ → Option σ
  /-- What is left to keep in mind if it is not known which of two parts stands there. -/
  either : σ → σ → σ

def Sketch.read {σ : Type} (r : Reading σ) : Sketch → σ → Option σ
  | .empty, q => some q
  | .text cs, q => r.text cs q
  | .name, q => r.name q
  | .number, q => r.number q
  | .value slot, q => r.value slot q
  | .append a b, q => (a.read r q).bind (b.read r)
  | .either a b, q => (a.read r q).bind fun s => (b.read r q).map (r.either s)

/-- What is kept in mind is true of the atoms that have been read, and stays so with each step. -/
structure Reading.Keeps {σ : Type} (r : Reading σ) (schemas : Schemas) (contracts : List String)
    (Knows : σ → List Atom → Prop) : Prop where
  text : ∀ {cs q s xs}, r.text cs q = some s → Knows q xs → Knows s (xs ++ cs.map .char)
  name : ∀ {role q s xs}, r.name q = some s → Knows q xs →
    Knows s (xs ++ (schemas.name role).toList.map .char)
  number : ∀ {n q s xs}, r.number q = some s → Knows q xs →
    Knows s (xs ++ (Nat.toDigits 10 n).map .char)
  value : ∀ {slot p q s xs}, r.value slot q = some s → slot.Holds contracts p → Knows q xs →
    Knows s (xs ++ [.param p])
  left : ∀ {q s xs}, Knows q xs → Knows (r.either q s) xs
  right : ∀ {q s xs}, Knows s xs → Knows (r.either q s) xs

/-- What reading a sketch shows is so for every fragment that is drawn after it. -/
theorem Sketch.Draws.read {σ : Type} {r : Reading σ} {schemas : Schemas} {contracts : List String}
    {Knows : σ → List Atom → Prop} (hr : r.Keeps schemas contracts Knows) {k : Sketch}
    {x : Fragment} (h : k.Draws schemas contracts x) {q s : σ} {xs : List Atom}
    (hs : k.read r q = some s) (hq : Knows q xs) : Knows s (xs ++ x.atoms) := by
  induction h generalizing q s xs with
  | empty =>
    cases hs
    simpa using hq
  | literal => simpa using hr.text hs hq
  | name => exact hr.name hs hq
  | number => simpa [Nat.toString_eq_repr, Nat.toList_repr] using hr.number hs hq
  | value h => exact hr.value hs h hq
  | append _ _ iha ihb =>
    obtain ⟨t, ht, hs⟩ := Option.bind_eq_some_iff.mp hs
    rw [Fragment.atoms_append, ← List.append_assoc]
    exact ihb hs (iha ht hq)
  | left _ ih =>
    obtain ⟨t, ht, hs⟩ := Option.bind_eq_some_iff.mp hs
    obtain ⟨u, -, rfl⟩ := Option.map_eq_some_iff.mp hs
    exact hr.left (ih ht hq)
  | right _ ih =>
    obtain ⟨t, -, hs⟩ := Option.bind_eq_some_iff.mp hs
    obtain ⟨u, hu, rfl⟩ := Option.map_eq_some_iff.mp hs
    exact hr.right (ih hu hq)

end MarketQuery.Sql
