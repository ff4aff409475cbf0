import MarketQuery.Proofs.Sql.Draft
import MarketQuery.Sql.Edit

namespace MarketQuery.Sql.Edit

open Segment (Canonical)

def startsOver : Edit → Bool
  | .restart _ => true
  | _ => false

mutual

def stream : Edit → List Atom
  | .push s => s.toList.map .char
  | .bind p => [.param p]
  | .append es => streamAll es
  | .restart s => s.toList.map .char
  | .join [] _ => noParts.toList.map .char
  | .join (p :: ps) separator =>
    (separator.toList.map Atom.char).intercalate (streamAll p :: streamParts ps)

/-- What edits add that is not given up again. -/
def streamAll : List Edit → List Atom
  | [] => []
  | e :: es => if es.any startsOver then streamAll es else stream e ++ streamAll es

def streamParts : List (List Edit) → List (List Atom)
  | [] => []
  | p :: ps => streamAll p :: streamParts ps

end

mutual

def write (d : Draft) : Edit → Draft
  | .push s => d.push s
  | .bind p => d.bind p
  | .append es => d.append (writeAll {} es)
  | .restart s => Draft.push {} s
  | .join parts separator =>
    match Draft.join separator (writeParts parts) with
    | some joined => d.append joined
    | none => d.push noParts

def writeAll (d : Draft) : List Edit → Draft
  | [] => d
  | e :: es => writeAll (write d e) es

def writeParts : List (List Edit) → List Draft
  | [] => []
  | p :: ps => writeAll {} p :: writeParts ps

end

def written (es : List Edit) : Draft := writeAll {} es

mutual

/-- An edit adds what it holds behind what there is, unless it starts over. -/
theorem atoms_apply (f : Fragment) (e : Edit) :
    (apply f e).atoms = if e.startsOver then e.stream else f.atoms ++ e.stream := by
  cases e with
  | push s => rfl
  | bind p => rfl
  | append es =>
    have hes : (applyAll .empty es).atoms = streamAll es :=
      (atoms_applyAll .empty es).trans (ite_self _)
    rw [apply, Fragment.atoms_append, hes, stream]
    rfl
  | restart s => rfl
  | join parts separator =>
    cases parts with
    | nil => rfl
    | cons p ps =>
      have hjoined := Fragment.atoms_join (rfl : Fragment.join separator (buildAll (p :: ps)) = _)
      rw [atoms_buildAll] at hjoined
      exact congrArg (f.atoms ++ ·) hjoined

theorem atoms_applyAll (f : Fragment) (es : List Edit) :
    (applyAll f es).atoms =
      if es.any startsOver then streamAll es else f.atoms ++ streamAll es := by
  cases es with
  | nil => exact (List.append_nil _).symm
  | cons e es =>
    rw [applyAll, atoms_applyAll (apply f e) es, streamAll, List.any_cons]
    -- a later edit that starts over gives up what this one adds
    cases hes : es.any startsOver with
    | true => simp
    | false =>
      rw [atoms_apply f e]
      cases e.startsOver <;> simp

theorem atoms_buildAll (ps : List (List Edit)) :
    (buildAll ps).map Fragment.atoms = streamParts ps := by
  cases ps with
  | nil => rfl
  | cons p ps =>
    have hp : (applyAll .empty p).atoms = streamAll p :=
      (atoms_applyAll .empty p).trans (ite_self _)
    rw [buildAll, List.map_cons, hp, atoms_buildAll ps, streamParts]

end

/-- The fragment that edits build holds what they add, in the order in which they add it. -/
theorem atoms_build (es : List Edit) : (build es).atoms = streamAll es :=
  (atoms_applyAll .empty es).trans (ite_self _)

mutual

/-- An edit in place leaves the draft of what the edit makes of the fragment. -/
theorem write_draft (f : Fragment) (e : Edit) : write f.draft e = (apply f e).draft := by
  cases e with
  | push s => exact f.push_draft s
  | bind p => exact f.bind_draft p
  | append es =>
    have hes : writeAll {} es = (applyAll .empty es).draft := writeAll_draft .empty es
    rw [write, apply, hes, Fragment.append_draft]
  | restart s => exact Fragment.push_draft .empty s
  | join parts separator =>
    rw [write, apply, writeParts_draft parts, Fragment.join_draft]
    cases Fragment.join separator (buildAll parts) with
    | none => exact f.push_draft noParts
    | some joined => exact f.append_draft joined

theorem writeAll_draft (f : Fragment) (es : List Edit) :
    writeAll f.draft es = (applyAll f es).draft := by
  cases es with
  | nil => rfl
  | cons e es => rw [writeAll, applyAll, write_draft f e, writeAll_draft (apply f e) es]

theorem writeParts_draft (ps : List (List Edit)) :
    writeParts ps = (buildAll ps).map Fragment.draft := by
  cases ps with
  | nil => rfl
  | cons p ps =>
    have hp : writeAll {} p = (applyAll .empty p).draft := writeAll_draft .empty p
    rw [writeParts, buildAll, List.map_cons, hp, writeParts_draft ps]

end

/-- Edits in place leave the draft of the fragment that they build. -/
theorem written_eq (es : List Edit) : written es = (build es).draft := writeAll_draft .empty es

theorem written_inj {es es' : List Edit} : written es = written es' ↔ build es = build es' := by
  rw [written_eq, written_eq, Fragment.draft_inj]

theorem build_inj {es es' : List Edit} : build es = build es' ↔ streamAll es = streamAll es' := by
  rw [Fragment.ext_iff, atoms_build, atoms_build]

/-- Of all drafts in canonical form, one holds what the edits add. -/
theorem eq_written_iff {d : Draft} {es : List Edit} :
    Canonical d.segments ∧ d.stream = streamAll es ↔ d = written es := by
  rw [written_eq, ← atoms_build]
  exact Fragment.eq_draft_iff

/-- Edits leave the only canonical draft of what they add, which is that of the fragment they build;
so whatever adds the same is the same. Drafts are put together like text: in any grouping, with an
empty draft that changes nothing, with separators between the parts that are joined, with the values
of the one behind those of the other, and with numbers that go on where those before them end. -/
theorem edits_compose_like_text :
    (∀ es : List Edit,
      (∀ d : Draft, Canonical d.segments ∧ d.stream = streamAll es ↔ d = written es) ∧
      written es = (build es).draft) ∧
    (∀ es es' : List Edit,
      (streamAll es = streamAll es' ↔ written es = written es') ∧
      (streamAll es = streamAll es' ↔ build es = build es')) ∧
    (∀ f g h : Fragment,
      f.draft.append g.draft = (f ++ g).draft ∧
      (f.draft.append g.draft).append h.draft = f.draft.append (g.draft.append h.draft) ∧
      Draft.append {} f.draft = f.draft ∧
      f.draft.append {} = f.draft) ∧
    (∀ (separator : String) (fs : List Fragment),
      Draft.join separator (fs.map Fragment.draft) =
        (Fragment.join separator fs).map Fragment.draft ∧
      Draft.join separator (fs.map Fragment.draft) =
        if fs.isEmpty then none
        else some (.concat ((fs.map Fragment.draft).intersperse (Draft.push {} separator)))) ∧
    ∀ f g : Fragment,
      f.draft.params = f.params ∧
      f.draft.raised 0 = f.render ∧
      (f ++ g).params = f.params ++ g.params ∧
      (f ++ g).render = f.render ++ g.draft.raised f.paramCount := by
  refine ⟨fun es => ⟨fun d => eq_written_iff, written_eq es⟩,
    fun es es' => ⟨build_inj.symm.trans written_inj.symm, build_inj.symm⟩, fun f g h => ?_,
    fun separator fs => ⟨Fragment.join_draft separator fs, Fragment.join_draft_eq separator fs⟩,
    fun f g => ⟨f.params_draft, f.raised_zero_draft, f.params_append g, f.render_append g⟩⟩
  refine ⟨f.append_draft g, ?_, Fragment.append_draft .empty f, ?_⟩
  · rw [Fragment.append_draft, Fragment.append_draft, Fragment.append_draft, Fragment.append_draft,
      Fragment.append_assoc]
  · have hright : f.draft.append (Fragment.draft .empty) = f.draft := by
      rw [Fragment.append_draft, Fragment.append_empty]
    exact hright

/-- Text goes on across nested edits, and what is empty leaves no trace. -/
example :
    written [.push "a", .append [.push "b", .bind (.bool true), .push ""],
      .join [[], [.push "c"]] ", "] = ⟨[.sql "ab", .param (.bool true), .sql ", c"]⟩ := by
  decide

end MarketQuery.Sql.Edit
