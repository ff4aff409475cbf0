import MarketQuery.Filters.Nft
import MarketQuery.Proofs.Json.Record

namespace MarketQuery.Filters

open Json (Codec Value)
open Json.Codec
open Json.RecordField (carries_optional decodeRecord_encodeRecord)

section Codecs

/-- One creator is written as a text and several as a list, so they are told apart. -/
theorem Creator.faithful_codec : codec.Faithful
  | .one _ => rfl
  | .many addresses => congrArg (Option.map many) (faithful_text.list addresses)

theorem Creator.faithful_nullable : codec.nullable.Faithful :=
  faithful_codec.nullable fun
    | .one _ => nofun
    | .many _ => nofun

theorem faithful_nullableTerm {α : Type} [Vocabulary α] : (term : Codec α).nullable.Faithful :=
  faithful_term.nullable fun _ => nofun

theorem faithful_nullableText : text.nullable.Faithful := faithful_text.nullable fun _ => nofun

theorem faithful_nullableBool : bool.nullable.Faithful := faithful_bool.nullable fun _ => nofun

theorem faithful_nullableWord32 : word32.nullable.Faithful :=
  faithful_word32.nullable fun _ => nofun

theorem faithful_nullableInt64 : int64.nullable.Faithful := faithful_int64.nullable fun _ => nofun

end Codecs

/-- A request for catalog items is read back from what is written for it. -/
theorem Catalog.decode_encode (f : Catalog) : decode f.encode = some f := by
  have hnames : (fields.map Json.RecordField.name).Nodup := by decide
  have hfields : List.Forall₂ Json.RecordField.Carries fields _ :=
    .cons (carries_optional faithful_nullableTerm) <|
    .cons (carries_optional faithful_term.list) <|
    .cons (carries_optional Creator.faithful_nullable) <|
    .cons (carries_optional faithful_text.list) <|
    .cons (carries_optional faithful_text.list) <|
    .cons (carries_optional faithful_text.list) <|
    .cons (carries_optional faithful_nullableText) <|
    .cons (carries_optional faithful_nullableTerm) <|
    .cons (carries_optional faithful_term.list) <|
    .cons (carries_optional faithful_nullableBool) <|
    .cons (carries_optional faithful_nullableBool) <|
    .cons (carries_optional faithful_nullableBool) <|
    .cons (carries_optional faithful_nullableTerm) <|
    .cons (carries_optional faithful_term.list) <|
    .cons (carries_optional faithful_nullableBool) <|
    .cons (carries_optional faithful_nullableBool) <|
    .cons (carries_optional faithful_term.list) <|
    .cons (carries_optional faithful_nullableBool) <|
    .cons (carries_optional faithful_nullableBool) <|
    .cons (carries_optional faithful_nullableBool) <|
    .cons (carries_optional faithful_nullableBool) <|
    .cons (carries_optional faithful_nullableText) <|
    .cons (carries_optional faithful_nullableText) <|
    .cons (carries_optional faithful_nullableTerm) <|
    .cons (carries_optional faithful_nullableWord32) <|
    .cons (carries_optional faithful_nullableWord32) <|
    .cons (carries_optional faithful_nullableTerm) <|
    .cons (carries_optional faithful_nullableTerm) .nil
  exact decodeRecord_encodeRecord .json hnames hfields f {}

/-- So is a request for tokens. -/
theorem Nft.decode_encode (f : Nft) : decode f.encode = some f := by
  have hnames : (fields.map Json.RecordField.name).Nodup := by decide
  have hfields : List.Forall₂ Json.RecordField.Carries fields _ :=
    .cons (carries_optional faithful_nullableTerm) <|
    .cons (carries_optional faithful_nullableText) <|
    .cons (carries_optional faithful_nullableText) <|
    .cons (carries_optional faithful_nullableText) <|
    .cons (carries_optional faithful_nullableTerm) <|
    .cons (carries_optional faithful_nullableBool) <|
    .cons (carries_optional faithful_nullableBool) <|
    .cons (carries_optional faithful_nullableInt64) <|
    .cons (carries_optional faithful_nullableInt64) <|
    .cons (carries_optional faithful_nullableTerm) <|
    .cons (carries_optional faithful_nullableTerm) <|
    .cons (carries_optional faithful_nullableBool) <|
    .cons (carries_optional faithful_nullableBool) <|
    .cons (carries_optional faithful_nullableBool) <|
    .cons (carries_optional faithful_nullableBool) <|
    .cons (carries_optional faithful_text.list) <|
    .cons (carries_optional faithful_nullableText) <|
    .cons (carries_optional faithful_nullableInt64) <|
    .cons (carries_optional faithful_nullableInt64) <|
    .cons (carries_optional faithful_nullableBool) <|
    .cons (carries_optional faithful_term.list) <|
    .cons (carries_optional faithful_term.list) <|
    .cons (carries_optional faithful_term.list) <|
    .cons (carries_optional Creator.faithful_nullable) <|
    .cons (carries_optional faithful_text.list) <|
    .cons (carries_optional faithful_term.list) <|
    .cons (carries_optional faithful_nullableText) <|
    .cons (carries_optional faithful_nullableText) <|
    .cons (carries_optional faithful_nullableBool) <|
    .cons (carries_optional faithful_nullableWord32) <|
    .cons (carries_optional faithful_nullableWord32) .nil
  exact decodeRecord_encodeRecord .json hnames hfields f {}

/-- A request as it is written after it has been read. -/
def Catalog.rewrite (v : Value) : Option Value := (decode v).map encode

def Nft.rewrite (v : Value) : Option Value := (decode v).map encode

/-- What is written of anything that could be read stands for the same, and is written the same way
again. -/
theorem rewrite_stable {α : Type} {decode : Value → Option α} {encode : α → Value}
    (h : ∀ a, decode (encode a) = some a) {v w : Value} (hw : (decode v).map encode = some w) :
    decode w = decode v ∧ (decode w).map encode = some w := by
  obtain ⟨a, ha, rfl⟩ := Option.map_eq_some_iff.mp hw
  exact ⟨(h a).trans ha.symm, congrArg (Option.map encode) (h a)⟩

/-- Every request is read back from what is written for it. So whatever is read as a request is
written in a form that stands for the same request and does not change when it is written again. -/
theorem survives_writing :
    (∀ f : Catalog, Catalog.decode f.encode = some f) ∧
    (∀ f : Nft, Nft.decode f.encode = some f) ∧
    (∀ v w, Catalog.rewrite v = some w →
      Catalog.decode w = Catalog.decode v ∧ Catalog.rewrite w = some w) ∧
    ∀ v w, Nft.rewrite v = some w → Nft.decode w = Nft.decode v ∧ Nft.rewrite w = some w := by
  exact ⟨Catalog.decode_encode, Nft.decode_encode, fun _ _ => rewrite_stable Catalog.decode_encode,
    fun _ _ => rewrite_stable Nft.decode_encode⟩

/-- Second spellings, a sort key that is not known and a member that no request has, and a request
that is given as a list. -/
theorem survives_writing_spellings :
    let v : Value := .record
      [("network", .text "POLYGON"), ("emotePlayMode", .list [.text "simple"]),
        ("sortBy", .text "price"), ("colour", .unreadable)]
    let u : Value := .list [.record [("wearable", .null)], .text "0x1"]
    (∃ w, Catalog.rewrite v = some w ∧ Catalog.rewrite w = some w ∧ Catalog.decode w =
      some { network := some .matic, emotePlayMode := [.once], sortBy := some .other }) ∧
    ∃ w, Nft.rewrite u = some w ∧ Nft.rewrite w = some w ∧ Nft.decode w =
      some { category := some .wearable, owner := some "0x1" } := by
  intro v u
  obtain ⟨-, -, hcatalog, hnft⟩ := survives_writing
  have hv : Catalog.rewrite v = some (Catalog.encode
    { network := some .matic, emotePlayMode := [.once], sortBy := some .other }) := rfl
  have hu : Nft.rewrite u = some (Nft.encode
    { category := some .wearable, owner := some "0x1" }) := rfl
  obtain ⟨hvread, hvwritten⟩ := hcatalog _ _ hv
  obtain ⟨huread, huwritten⟩ := hnft _ _ hu
  exact ⟨⟨_, hv, hvwritten, hvread.trans rfl⟩, _, hu, huwritten, huread.trans rfl⟩

end MarketQuery.Filters
