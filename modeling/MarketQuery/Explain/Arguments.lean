namespace MarketQuery.Explain

inductive Kind where
  | catalog | search | nfts
  deriving DecidableEq

def Kind.ofWord? : String → Option Kind
  | "catalog" => some .catalog
  | "search" => some .search
  | "nfts" => some .nfts
  | _ => none

structure Arguments where
  config : String
  filters : String
  kind : Kind
  execute : Bool

structure Given where
  config : Option String := none
  filters : Option String := none
  kind : Option Kind := none
  execute : Bool := false

inductive Parameter where
  | config | filters | kind
  deriving DecidableEq

def Parameter.ofLetter? : Char → Option Parameter
  | 'c' => some .config
  | 'f' => some .filters
  | 'k' => some .kind
  | _ => none

def Parameter.ofName? : String → Option Parameter
  | "config" => some .config
  | "filters" => some .filters
  | "kind" => some .kind
  | _ => none

/-- Nothing may be given twice, and no path is empty. -/
def Given.set (g : Given) (p : Parameter) (value : String) : Option Given :=
  match p with
  | .config =>
    if g.config.isSome || value.isEmpty then none else some { g with config := some value }
  | .filters =>
    if g.filters.isSome || value.isEmpty then none else some { g with filters := some value }
  | .kind =>
    if g.kind.isSome then none
    else (Kind.ofWord? value).map fun k => { g with kind := some k }

def isOption (arg : String) : Bool :=
  match arg.toList with
  | '-' :: _ :: _ => true
  | _ => false

inductive Parsed where
  | parameter (p : Parameter) (value : Option String)
  | execute

def parseOption (arg : String) : Option Parsed :=
  match arg.toList with
  | '-' :: '-' :: name =>
    let word := String.ofList (name.takeWhile (· != '='))
    match name.dropWhile (· != '=') with
    | [] =>
      if word = "execute" then some .execute
      else (Parameter.ofName? word).map (.parameter · none)
    | _ :: value => (Parameter.ofName? word).map (.parameter · (some (String.ofList value)))
  | '-' :: letter :: value =>
    (Parameter.ofLetter? letter).map fun p =>
      .parameter p <| match value with
        | [] => none
        | '=' :: value => some (String.ofList value)
        | value => some (String.ofList value)
  | _ => none

/-- Reads the arguments one by one. Two dashes end the options, and nothing may follow them. -/
def Given.take (g : Given) : List String → Option Given
  | [] => some g
  | arg :: rest =>
    if arg = "--" then if rest.isEmpty then some g else none
    else match parseOption arg with
      | none => none
      | some .execute => if g.execute then none else take { g with execute := true } rest
      | some (.parameter p (some value)) => (g.set p value).bind (take · rest)
      | some (.parameter p none) =>
        match rest with
        | [] => none
        | value :: rest => if isOption value then none else (g.set p value).bind (take · rest)

def Arguments.parse (args : List String) : Option Arguments := do
  let g ← Given.take {} args
  return ⟨← g.config, ← g.filters, g.kind.getD .catalog, g.execute⟩

end MarketQuery.Explain
