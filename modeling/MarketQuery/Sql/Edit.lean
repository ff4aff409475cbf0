import MarketQuery.Sql.Fragment

namespace MarketQuery.Sql

/-- An edit adds at the end of the fragment so far, or starts it over. -/
inductive Edit where
  | push (text : String)
  | bind (p : Param)
  | append (edits : List Edit)
  | restart (text : String)
  | join (parts : List (List Edit)) (separator : String)

def noParts : String := "<none>"

namespace Edit

mutual

def apply (f : Fragment) : Edit → Fragment
  | .push s => f ++ .text s
  | .bind p => f ++ .bind p
  | .append es => f ++ applyAll .empty es
  | .restart s => .text s
  | .join parts separator => f ++ ((Fragment.join separator (buildAll parts)).getD (.text noParts))

def applyAll (f : Fragment) : List Edit → Fragment
  | [] => f
  | e :: es => applyAll (apply f e) es

def buildAll : List (List Edit) → List Fragment
  | [] => []
  | p :: ps => applyAll .empty p :: buildAll ps

end

def build (es : List Edit) : Fragment := applyAll .empty es

def steps (f : Fragment) : List Edit → List Fragment
  | [] => []
  | e :: es => apply f e :: steps (apply f e) es

end Edit

end MarketQuery.Sql
