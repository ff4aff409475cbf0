namespace MarketQuery.Sql

inductive Param where
  | text (value : String)
  | textArray (values : List String)
  | bool (value : Bool)
  | int (value : Int64)
  deriving DecidableEq

inductive Atom where
  | char (c : Char)
  | param (p : Param)
  deriving DecidableEq

/-- A piece of SQL is a word over characters and parameters. Its text numbers the parameters in the
order in which they stand; its segments are the longest stretches of text between them. -/
@[ext]
structure Fragment where
  atoms : List Atom
  deriving DecidableEq

inductive Segment where
  | sql (text : String)
  | param (p : Param)
  deriving DecidableEq

def Atom.param? : Atom → Option Param
  | .char _ => none
  | .param p => some p

theorem Atom.filterMap_param?_chars (cs : List Char) :
    (cs.map Atom.char).filterMap Atom.param? = [] := by
  rw [List.filterMap_map]
  exact List.filterMap_eq_nil_iff.mpr fun _ _ => rfl

namespace Fragment

def empty : Fragment := ⟨[]⟩

def text (s : String) : Fragment := ⟨s.toList.map .char⟩

def bind (p : Param) : Fragment := ⟨[.param p]⟩

instance : Append Fragment := ⟨fun f g => ⟨f.atoms ++ g.atoms⟩⟩

def concat (fs : List Fragment) : Fragment := ⟨fs.flatMap atoms⟩

/-- Nothing is joined to nothing, not to the empty fragment. -/
def join (separator : String) : List Fragment → Option Fragment
  | [] => none
  | f :: fs => some (f ++ concat (fs.map (text separator ++ ·)))

def isEmpty (f : Fragment) : Bool := f.atoms.isEmpty

def params (f : Fragment) : List Param := f.atoms.filterMap Atom.param?

def paramCount (f : Fragment) : Nat := f.params.length

/-- The text from its first atom on, with `n` parameters before it. -/
def renderAtoms (n : Nat) : List Atom → List Char
  | [] => []
  | .char c :: r => c :: renderAtoms n r
  | .param _ :: r => '$' :: Nat.toDigits 10 (n + 1) ++ renderAtoms (n + 1) r

def render (f : Fragment) : String := String.ofList (renderAtoms 0 f.atoms)

/-- Characters that stand together, each run in its own list, and parameters between them. -/
def runs : List Atom → List (List Char ⊕ Param)
  | [] => []
  | .param p :: r => .inr p :: runs r
  | .char c :: r =>
    match runs r with
    | .inl cs :: rest => .inl (c :: cs) :: rest
    | rest => .inl [c] :: rest

def segments (f : Fragment) : List Segment :=
  (runs f.atoms).map fun
    | .inl cs => .sql (String.ofList cs)
    | .inr p => .param p

theorem toList_render (f : Fragment) : f.render.toList = renderAtoms 0 f.atoms := by
  rw [render, String.toList_ofList]

@[simp] theorem atoms_empty : empty.atoms = [] := rfl

@[simp] theorem atoms_text (s : String) : (text s).atoms = s.toList.map .char := rfl

@[simp] theorem atoms_bind (p : Param) : (bind p).atoms = [.param p] := rfl

@[simp] theorem atoms_append (f g : Fragment) : (f ++ g).atoms = f.atoms ++ g.atoms := rfl

@[simp] theorem atoms_concat (fs : List Fragment) : (concat fs).atoms = fs.flatMap atoms := rfl

theorem text_append (s t : String) : text (s ++ t) = text s ++ text t := by
  apply Fragment.ext
  simp

theorem params_append (f g : Fragment) : (f ++ g).params = f.params ++ g.params := by
  simp [params]

@[simp] theorem params_empty : empty.params = [] := rfl

@[simp] theorem params_bind (p : Param) : (bind p).params = [p] := rfl

@[simp] theorem params_text (s : String) : (text s).params = [] :=
  Atom.filterMap_param?_chars s.toList

theorem params_concat (fs : List Fragment) : (concat fs).params = fs.flatMap params := by
  rw [params, atoms_concat, List.filterMap_flatMap]
  rfl

end Fragment

structure Statement where
  fragment : Fragment
  deriving DecidableEq

namespace Statement

def sql (s : Statement) : String := s.fragment.render

def params (s : Statement) : List Param := s.fragment.params

def segments (s : Statement) : List Segment := s.fragment.segments

end Statement

end MarketQuery.Sql
