import MarketQuery.Proofs.Sql.Segments
import MarketQuery.Proofs.Sql.Sketch

namespace MarketQuery.Sql

inductive ParamType where
  | text | textArray | bool | int
  deriving DecidableEq

def Param.type : Param → ParamType
  | .text _ => .text
  | .textArray _ => .textArray
  | .bool _ => .bool
  | .int _ => .int

def Slot.type : Slot → ParamType
  | .text => .text
  | .amount => .text
  | .texts => .textArray
  | .contracts => .textArray
  | .bool => .bool
  | .int => .int

theorem Slot.Holds.type_eq {contracts : List String} {slot : Slot} {p : Param}
    (h : slot.Holds contracts p) : p.type = slot.type := by
  cases slot with
  | text => obtain ⟨s, rfl⟩ := h; rfl
  | amount => obtain ⟨s, rfl, -⟩ := h; rfl
  | texts => obtain ⟨ss, rfl, -⟩ := h; rfl
  | contracts => cases h; rfl
  | bool => obtain ⟨b, rfl⟩ := h; rfl
  | int => obtain ⟨z, rfl⟩ := h; rfl

def Param.IsAmount (p : Param) : Prop := ∃ s, p = .text s ∧ Decimal.isAmount s = true

/-- The words that call for a list, a truth value or an integer. Any other text calls for a text. -/
def leads : ParamType → List String
  | .text => []
  | .textArray => ["ANY(", "@> (", "array_position("]
  | .bool => ["metadata_emote.loop = ", "nft.search_emote_loop = "]
  | .int =>
    ["estate.size >= ", "estate.size <= ", "nft.search_distance_to_plaza >= ",
      "nft.search_distance_to_plaza <= "]

def contractsLead : String := "LOWER(signature_index.address) = ANY("

def castWord : String := "::numeric"

/-- These atoms begin with the cast to a number, as far as they go. -/
def BeginsCast (ys : List Atom) : Prop :=
  ys ≠ [] ∧ (ys <+: castWord.toList.map .char ∨ castWord.toList.map .char <+: ys)

theorem BeginsCast.of_append {ys zs : List Atom} (hy : ys ≠ []) (h : BeginsCast (ys ++ zs)) :
    BeginsCast ys := by
  refine ⟨hy, ?_⟩
  rcases h.2 with h | h
  · exact .inl ((List.prefix_append ys zs).trans h)
  · exact List.prefix_or_prefix_of_prefix (List.prefix_append ys zs) h

theorem BeginsCast.of_castWord {ys : List Atom} (h : castWord.toList.map .char <+: ys) :
    BeginsCast ys := by
  refine ⟨?_, .inr h⟩
  rintro rfl
  exact absurd (List.prefix_nil.mp h) (by decide)

theorem not_beginsCast_param {p : Param} {ys : List Atom} : ¬ BeginsCast (.param p :: ys) := by
  rintro ⟨-, h | h⟩
  · exact param_notMem_chars (h.subset (List.mem_cons_self ..))
  · obtain ⟨c, cs, hw⟩ : ∃ c cs, castWord.toList = c :: cs := ⟨_, _, rfl⟩
    rw [hw, List.map_cons, List.cons_prefix_cons] at h
    cases h.1

/-- How a value sits between the atoms before it and those behind it. -/
structure Seated (contracts : List String) (xs : List Atom) (p : Param) (ys : List Atom) : Prop where
  typed : ∀ t ≠ .text, p.type = t ↔ ∃ w ∈ leads t, w.toList.map .char <:+ xs
  cast : BeginsCast ys → p.IsAmount
  filled : p = .textArray [] → contractsLead.toList.map .char <:+ xs
  settled : contractsLead.toList.map .char <:+ xs → p = .textArray contracts

def AllSeated (contracts : List String) (xs : List Atom) : Prop :=
  ∀ us p vs, xs = us ++ .param p :: vs → Seated contracts us p vs

section Seats

variable {contracts : List String} {xs ys zs : List Atom} {p : Param}

theorem Seated.append (h : Seated contracts xs p ys)
    (hz : ys = [] → BeginsCast zs → p.IsAmount) : Seated contracts xs p (ys ++ zs) where
  typed := h.typed
  cast hc := by
    by_cases hy : ys = []
    · subst hy
      exact hz rfl hc
    · exact h.cast (hc.of_append hy)
  filled := h.filled
  settled := h.settled

theorem AllSeated.nil : AllSeated contracts [] := by
  intro us p vs h
  simp at h

/-- Text leaves values seated, unless it is a cast that the last of them cannot take. -/
theorem AllSeated.chars {cs : List Char} (h : AllSeated contracts xs)
    (hcast : ∀ p, xs.getLast? = some (.param p) → BeginsCast (cs.map .char) → p.IsAmount) :
    AllSeated contracts (xs ++ cs.map .char) := by
  intro us p vs he
  -- No value is among the characters, so each stands in `xs`, and only what is behind it grows.
  rcases List.append_eq_append_iff.mp he with ⟨as, rfl, hcs⟩ | ⟨bs, rfl, hbs⟩
  · exact absurd (hcs ▸ List.mem_append_right as (List.mem_cons_self ..)) param_notMem_chars
  · cases bs with
    | nil =>
      have hmem : .param p ∈ [] ++ cs.map Atom.char := hbs ▸ List.mem_cons_self ..
      exact absurd hmem param_notMem_chars
    | cons b bs =>
      rw [List.cons_append, List.cons.injEq] at hbs
      obtain ⟨rfl, rfl⟩ := hbs
      refine (h us p bs rfl).append fun hb => hcast p ?_
      rw [hb, List.getLast?_append, List.getLast?_singleton]
      rfl

theorem AllSeated.param (h : AllSeated contracts xs) (hp : Seated contracts xs p []) :
    AllSeated contracts (xs ++ [.param p]) := by
  intro us q vs he
  rcases List.eq_nil_or_concat vs with rfl | ⟨vs, v, rfl⟩
  · obtain ⟨rfl, hq⟩ := List.append_inj' he rfl
    cases hq
    exact hp
  · rw [List.concat_eq_append, ← List.cons_append, ← List.append_assoc] at he
    obtain ⟨rfl, hv⟩ := List.append_inj' he rfl
    cases hv
    rw [List.concat_eq_append]
    exact (h us q vs rfl).append fun _ hc => absurd hc not_beginsCast_param

end Seats

structure Place where
  /-- The characters right before, the nearest first, as far as they are known. -/
  before : List Char
  /-- Whether a value that is no amount may stand right before. -/
  uncast : Bool

namespace Place

def endsIn (before : List Char) (w : String) : Bool := w.toList.reverse.isPrefixOf before

/-- It can be told from the characters that are known whether they end with this word. -/
def tells (before : List Char) (w : String) : Bool :=
  endsIn before w || !before.isPrefixOf w.toList.reverse

def callsFor (before : List Char) (t : ParamType) : Bool :=
  [.textArray, .bool, .int].all fun u =>
    (leads u).all (tells before) && (u == t) == (leads u).any (endsIn before)

def callsForContracts (before : List Char) (slot : Slot) : Bool :=
  tells before contractsLead && (slot == .contracts) == endsIn before contractsLead

def mayCast (cs : List Char) : Bool :=
  !cs.isEmpty && (cs.isPrefixOf castWord.toList || castWord.toList.isPrefixOf cs)

def reading : Reading Place where
  text cs q :=
    if q.uncast && mayCast cs then none
    else some ⟨cs.reverse ++ q.before, q.uncast && cs.isEmpty⟩
  name q := if q.uncast then none else some ⟨[], false⟩
  number q := if q.uncast then none else some ⟨[], false⟩
  value slot q :=
    if callsFor q.before slot.type && callsForContracts q.before slot then
      some ⟨[], slot != .amount⟩
    else none
  either q s := ⟨if q.before = s.before then q.before else [], q.uncast || s.uncast⟩

structure Knows (contracts : List String) (q : Place) (xs : List Atom) : Prop where
  before : q.before.reverse.map .char <:+ xs
  uncast : q.uncast = false → ∀ p, xs.getLast? = some (.param p) → p.IsAmount
  seated : AllSeated contracts xs

theorem mayCast_of_begins {cs : List Char} (h : BeginsCast (cs.map .char)) : mayCast cs = true := by
  obtain ⟨hne, h⟩ := h
  have hcs : cs.isEmpty = false := by simpa using hne
  rw [List.prefix_map_iff_of_injective Atom.char_injective,
    List.prefix_map_iff_of_injective Atom.char_injective] at h
  simpa [mayCast, hcs] using h

theorem endsIn_iff {before : List Char} {w : String} :
    endsIn before w = true ↔ w.toList <:+ before.reverse := by
  rw [endsIn, List.isPrefixOf_iff_prefix, ← List.reverse_prefix, List.reverse_reverse]

/-- What is told of the characters that are known is so for all that stands before. -/
theorem endsIn_iff_suffix {before : List Char} {w : String} {xs : List Atom}
    (ht : tells before w = true) (hb : before.reverse.map .char <:+ xs) :
    endsIn before w = true ↔ w.toList.map .char <:+ xs := by
  refine ⟨fun h => ((endsIn_iff.mp h).map Atom.char).trans hb, fun h => ?_⟩
  rw [tells, Bool.or_eq_true_iff, Bool.not_eq_true'] at ht
  rcases ht with ht | ht
  · exact ht
  · rcases List.suffix_or_suffix_of_suffix h hb with h | h
    · exact endsIn_iff.mpr (chars_suffix_iff.mp h)
    · have hp : before.isPrefixOf w.toList.reverse = true := by
        rw [List.isPrefixOf_iff_prefix, ← List.reverse_suffix, List.reverse_reverse]
        exact chars_suffix_iff.mp h
      rw [hp] at ht
      contradiction

variable {contracts : List String}

theorem Knows.nil : Knows contracts ⟨[], false⟩ [] where
  before := List.nil_suffix
  uncast _ p h := by simp at h
  seated := .nil

/-- The characters of a name or of a number are not known, but they end what is right before. -/
theorem Knows.unknown {q s : Place} {xs : List Atom} {cs : List Char}
    (hs : (if q.uncast then none else some ⟨[], false⟩) = some s) (h : Knows contracts q xs) :
    Knows contracts s (xs ++ cs.map .char) := by
  split at hs
  · contradiction
  · rename_i hq
    cases hs
    have huncast : q.uncast = false := Bool.not_eq_true _ ▸ hq
    refine ⟨List.nil_suffix, fun _ p hp => ?_, h.seated.chars fun p hp _ => h.uncast huncast p hp⟩
    rcases List.eq_nil_or_concat cs with rfl | ⟨cs, c, rfl⟩
    · exact h.uncast huncast p (by simpa using hp)
    · simp at hp

theorem Knows.chars {q s : Place} {xs : List Atom} {cs : List Char}
    (hs : reading.text cs q = some s) (h : Knows contracts q xs) :
    Knows contracts s (xs ++ cs.map .char) := by
  rw [reading] at hs
  dsimp only at hs
  split at hs
  · contradiction
  · rename_i hc
    cases hs
    have hcast : ∀ p, xs.getLast? = some (.param p) → BeginsCast (cs.map .char) → p.IsAmount := by
      intro p hp hb
      refine h.uncast ?_ p hp
      simpa [mayCast_of_begins hb] using hc
    refine ⟨?_, fun huncast p hp => ?_, h.seated.chars hcast⟩
    · rw [List.reverse_append, List.reverse_reverse, List.map_append]
      exact List.suffix_append_self_iff.mpr h.before
    · rcases List.eq_nil_or_concat cs with rfl | ⟨cs, c, rfl⟩
      · exact h.uncast (by simpa using huncast) p (by simpa using hp)
      · simp at hp

/-- If it can be told what the characters before a value call for, they decide on its type. -/
theorem typed_of_callsFor {t u : ParamType} {before : List Char} {xs : List Atom}
    (h : callsFor before t = true) (hb : before.reverse.map .char <:+ xs) (hu : u ≠ .text) :
    t = u ↔ ∃ w ∈ leads u, w.toList.map .char <:+ xs := by
  have hmem : u ∈ [ParamType.textArray, .bool, .int] := by cases u <;> simp_all
  obtain ⟨htells, heq⟩ := Bool.and_eq_true_iff.mp (List.all_eq_true.mp h u hmem)
  have hiff : u = t ↔ ∃ w ∈ leads u, endsIn before w = true := by
    rw [← List.any_eq_true, ← eq_of_beq heq, beq_iff_eq]
  rw [eq_comm, hiff]
  refine exists_congr fun w => and_congr_right fun hw => ?_
  exact endsIn_iff_suffix (List.all_eq_true.mp htells w hw) hb

theorem contracts_iff {slot : Slot} {before : List Char} {xs : List Atom}
    (h : callsForContracts before slot = true) (hb : before.reverse.map .char <:+ xs) :
    slot = .contracts ↔ contractsLead.toList.map .char <:+ xs := by
  obtain ⟨htells, heq⟩ := Bool.and_eq_true_iff.mp h
  rw [← endsIn_iff_suffix htells hb, ← eq_of_beq heq, beq_iff_eq]

theorem seated_of_calls {slot : Slot} {p : Param} {before : List Char} {xs : List Atom}
    (hcalls : callsFor before slot.type = true) (hcontracts : callsForContracts before slot = true)
    (hp : slot.Holds contracts p) (hb : before.reverse.map .char <:+ xs) :
    Seated contracts xs p [] where
  typed t ht := hp.type_eq ▸ typed_of_callsFor hcalls hb ht
  cast h := absurd rfl h.1
  filled he := by
    refine (contracts_iff hcontracts hb).mp ?_
    subst he
    cases slot with
    | contracts => rfl
    | texts =>
      obtain ⟨ss, he, hne⟩ := hp
      exact absurd (Param.textArray.inj he).symm hne
    | text | amount | bool | int => cases hp.type_eq
  settled h := by
    obtain rfl := (contracts_iff hcontracts hb).mpr h
    exact hp

theorem Knows.param {slot : Slot} {p : Param} {q s : Place} {xs : List Atom}
    (hs : reading.value slot q = some s) (hp : slot.Holds contracts p) (h : Knows contracts q xs) :
    Knows contracts s (xs ++ [.param p]) := by
  rw [reading] at hs
  dsimp only at hs
  split at hs
  · rename_i hc
    cases hs
    obtain ⟨hcalls, hcontracts⟩ := Bool.and_eq_true_iff.mp hc
    refine ⟨List.nil_suffix, fun huncast r hr => ?_,
      h.seated.param (seated_of_calls hcalls hcontracts hp h.before)⟩
    rw [List.getLast?_concat] at hr
    cases hr
    have hslot : slot = .amount := by simpa using huncast
    subst hslot
    exact hp
  · contradiction

theorem Knows.of_before {q s : Place} {xs : List Atom} (h : Knows contracts q xs)
    (hb : s.before = [] ∨ s.before = q.before) (hu : s.uncast = false → q.uncast = false) :
    Knows contracts s xs where
  before := by
    rcases hb with hb | hb
    · rw [hb]
      exact List.nil_suffix
    · rw [hb]
      exact h.before
  uncast hs := h.uncast (hu hs)
  seated := h.seated

/-- What is known while a sketch is read is true of all that is drawn after it. -/
theorem reading_keeps {schemas : Schemas} :
    reading.Keeps schemas contracts (Knows contracts) where
  text := Knows.chars
  name := Knows.unknown
  number := Knows.unknown
  value := Knows.param
  left {q s xs} h := by
    refine h.of_before ?_ fun hu => (Bool.or_eq_false_iff.mp hu).1
    dsimp only [reading]
    split
    · exact .inr rfl
    · exact .inl rfl
  right {q s xs} h := by
    refine h.of_before ?_ fun hu => (Bool.or_eq_false_iff.mp hu).2
    dsimp only [reading]
    split
    · exact .inr ‹_›
    · exact .inl rfl

end Place

/-- All values sit well in what is drawn after a sketch that passes. -/
theorem Sketch.Draws.allSeated {schemas : Schemas} {contracts : List String} {k : Sketch}
    {x : Fragment} (h : k.Draws schemas contracts x)
    (hk : (k.read Place.reading ⟨[], false⟩).isSome = true) : AllSeated contracts x.atoms := by
  obtain ⟨q, hq⟩ := Option.isSome_iff_exists.mp hk
  exact (h.read Place.reading_keeps hq .nil).seated

structure Fits (contracts : List String) (before : String) (p : Param) (behind : String) :
    Prop where
  /-- The text before a value calls for its type, and text stands where nothing else is called for. -/
  typed : ∀ t ≠ .text, p.type = t ↔ ∃ w ∈ leads t, w.toList <:+ before.toList
  /-- What is cast to a number is one. -/
  number : castWord.toList <+: behind.toList → ∃ s, p = .text s ∧ Decimal.isAmount s = true
  /-- Only the contracts that the settings name may be an empty list. -/
  filled : p = .textArray [] → contractsLead.toList <:+ before.toList
  settled : contractsLead.toList <:+ before.toList → p = .textArray contracts

theorem leads_ne_nil {t : ParamType} {w : String} (h : w ∈ leads t) : w.toList ≠ [] := by
  revert w
  cases t <;> decide

/-- A value that sits well is what its neighbours among the segments need. -/
theorem AllSeated.fits {contracts : List String} {f : Fragment} (h : AllSeated contracts f.atoms)
    {l r : List Segment} {p : Param} (hs : f.segments = l ++ .param p :: r) :
    Fits contracts (Segment.textBefore l) p (Segment.textBehind r) := by
  obtain ⟨x, y, rfl, rfl, rfl⟩ := Fragment.segments_split hs
  have hseat : Seated contracts x.atoms p y.atoms := h _ _ _ rfl
  have hcontracts : contractsLead.toList ≠ [] := by decide
  refine ⟨fun t ht => ?_, fun hc => ?_, fun he => ?_, fun hc => ?_⟩
  · rw [hseat.typed t ht]
    refine exists_congr fun w => and_congr_right fun hw => ?_
    exact (Fragment.suffix_textBefore_iff (leads_ne_nil hw)).symm
  · exact hseat.cast (.of_castWord (Fragment.prefix_of_textBehind (by decide) hc))
  · exact (Fragment.suffix_textBefore_iff hcontracts).mpr (hseat.filled he)
  · exact hseat.settled ((Fragment.suffix_textBefore_iff hcontracts).mp hc)

end MarketQuery.Sql
