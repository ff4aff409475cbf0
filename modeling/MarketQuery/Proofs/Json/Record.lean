import MarketQuery.Json.Codec
import Mathlib.Data.List.Forall2

namespace MarketQuery.Json

variable {R : Type}

namespace RecordField

/-- What the field writes of one record it can read into any other, which takes it over like this.
-/
def Carries (f : RecordField R) (put : R → R → R) : Prop :=
  ∀ r s, f.read (f.write r) s = some (put r s)

/-- A field with a faithful codec reads what it has written, into any record. -/
theorem carries_optional {α : Type} {c : Codec α} (h : c.Faithful) {name : String} {get : R → α}
    {set : α → R → R} : (optional name c get set).Carries fun r s => set (get r) s := by
  intro r s
  show (c.decode (c.encode (get r))).map (set · s) = some (set (get r) s)
  rw [h (get r)]
  rfl

variable {fields : List (RecordField R)}

/-- Of the members that are written, one has the name of a field. -/
theorem members_of_name (h : (fields.map name).Nodup) {f : RecordField R} (hf : f ∈ fields)
    (r : R) : (fields.map fun g => (g.name, g.write r)).filter (·.1 == f.name) =
      [(f.name, f.write r)] := by
  induction fields with
  | nil => cases hf
  | cons g gs ih =>
    rw [List.map_cons, List.nodup_cons] at h
    obtain ⟨hg, hgs⟩ := h
    rw [List.map_cons]
    rcases List.mem_cons.mp hf with rfl | hf
    · have hrest : (gs.map fun g => (g.name, g.write r)).filter (·.1 == f.name) = [] := by
        rw [List.filter_eq_nil_iff]
        intro m hm
        obtain ⟨k, hk, rfl⟩ := List.mem_map.mp hm
        have hne : k.name ≠ f.name := fun he => hg (he ▸ List.mem_map_of_mem hk)
        simpa using hne
      rw [List.filter_cons_of_pos (by simp), hrest]
    · have hne : g.name ≠ f.name := fun he => hg (he ▸ List.mem_map_of_mem hf)
      rw [List.filter_cons_of_neg (by simpa using hne), ih hgs hf]

theorem mapM_eq_some {α β : Type} {g : α → Option β} {k : α → β} {as : List α}
    (h : ∀ a ∈ as, g a = some (k a)) : as.mapM g = some (as.map k) := by
  induction as with
  | nil => rfl
  | cons a as ih =>
    rw [List.forall_mem_cons] at h
    rw [List.mapM_cons, h.1, ih h.2]
    rfl

/-- All fields find what was written for them. -/
theorem given_encodeRecord (leeway : Leeway) (h : (fields.map name).Nodup) (r : R) :
    given leeway (fields.map name) (encodeRecord fields r) =
      some (fields.map fun f => some (f.write r)) := by
  have hknown : (fields.map fun f => (f.name, f.write r)).all
      (fun m => (fields.map name).contains m.1 || m.2.isReadable) = true := by
    rw [List.all_eq_true]
    intro m hm
    obtain ⟨f, hf, rfl⟩ := List.mem_map.mp hm
    simp [List.mem_map_of_mem hf]
  rw [encodeRecord, given, hknown, Bool.or_true, if_pos rfl, List.mapM_map]
  refine mapM_eq_some fun f hf => ?_
  simp only [Function.comp_apply, members_of_name h hf]

/-- A record is read from what is written for it, whatever the fields had before, as long as each
field carries its part. -/
theorem decodeRecord_encodeRecord {puts : List (R → R → R)} (leeway : Leeway)
    (hnames : (fields.map name).Nodup) (h : List.Forall₂ Carries fields puts) (r initial : R) :
    decodeRecord leeway fields initial (encodeRecord fields r) =
      some (puts.foldl (fun s put => put r s) initial) := by
  rw [decodeRecord, given_encodeRecord leeway hnames r]
  show (fields.zip (fields.map fun f => some (f.write r))).foldlM (fun s p => p.1.take s p.2)
    initial = _
  clear hnames
  induction h generalizing initial with
  | nil => rfl
  | @cons f put fields puts hf _ ih =>
    rw [List.map_cons, List.zip_cons_cons, List.foldlM_cons, List.foldl_cons, take, hf r initial]
    exact ih (put r initial)

end RecordField

end MarketQuery.Json
