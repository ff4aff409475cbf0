import MarketQuery.Proofs.Sql.Clean

namespace MarketQuery.Config

/-- A requirement that is not met keeps everything behind it from being looked at. -/
theorem require_then_eq_ok_iff {holds : Bool} {e : ConfigError} {x : Except ConfigError Unit} :
    (do require holds e; x) = .ok () ↔ holds = true ∧ x = .ok () := by
  cases holds with
  | false => exact ⟨nofun, nofun⟩
  | true => exact ⟨fun h => ⟨rfl, h⟩, fun h => h.2⟩

/-- A loop of requirements asks for all of them. -/
theorem require_all_then_eq_ok_iff {α : Type} {holds : α → Bool} {e : α → ConfigError}
    {as : List α} {x : Except ConfigError Unit} :
    (do
      for a in as do
        require (holds a) (e a)
      x) = .ok () ↔ (∀ a ∈ as, holds a = true) ∧ x = .ok () := by
  induction as with
  | nil => exact ⟨fun h => ⟨by simp, h⟩, fun h => h.2⟩
  | cons a as ih =>
    rw [List.forall_mem_cons, and_assoc, ← ih, List.forIn_cons]
    cases holds a with
    | false => exact ⟨nofun, nofun⟩
    | true => exact ⟨fun h => ⟨rfl, h⟩, fun h => h.2⟩

/-- Settings are in order exactly if each part of them is. -/
theorem validate_eq_ok_iff {c : Config} :
    c.validate = .ok () ↔ Text.isBlank c.logLevel = false ∧ Text.isBlank c.dsn = false ∧
      0 < c.poolMaxConns ∧ c.schemas.Plain ∧
      ∀ chain, isAddress (c.marketplace.address chain) = true := by
  have hroles : (∀ role ∈ [SchemaRole.marketplace, .builderServer, .trades, .squidTrades],
      isIdentifier (c.schemas.name role) = true) ↔ c.schemas.Plain :=
    ⟨fun h role => h role (by cases role <;> decide), fun h role _ => h role⟩
  have hchains : (∀ chain ∈ [Chain.ethereum, .polygon],
      isAddress (c.marketplace.address chain) = true) ↔
      ∀ chain, isAddress (c.marketplace.address chain) = true :=
    ⟨fun h chain => h chain (by cases chain <;> decide), fun h chain _ => h chain⟩
  rw [validate]
  simp only [require_then_eq_ok_iff, require_all_then_eq_ok_iff, hroles, hchains,
    Bool.not_eq_true', decide_eq_true_eq]
  simp [pure, Except.pure]

/-- Settings are accepted as they are when tidied up, and only if they are then in order. -/
theorem accept_eq_ok_iff {c d : Config} :
    c.accept = .ok d ↔ c.normalize.validate = .ok () ∧ d = c.normalize := by
  rw [accept]
  cases c.normalize.validate with
  | error e => exact ⟨nofun, nofun⟩
  | ok u => exact ⟨fun h => ⟨rfl, (Except.ok.inj h).symm⟩, fun h => congrArg Except.ok h.2.symm⟩

/-- Settings that are loaded have been found to be in order. -/
theorem validate_of_load {file : Option ByteArray} {d : Config} (h : load file = .ok d) :
    d.validate = .ok () := by
  unfold load at h
  split at h
  · rename_i text htext
    split at h
    · rename_i c _
      cases ha : c.accept with
      | error e => rw [ha] at h; cases h
      | ok e =>
        rw [ha] at h
        cases h
        obtain ⟨hvalid, rfl⟩ := accept_eq_ok_iff.mp ha
        exact hvalid
    · cases h
  · cases h

theorem toml_parse_ofList (cs : List Char) :
    Toml.parse (String.ofList cs) =
      (match Toml.readDocument cs with
        | some (t, []) => some t
        | _ => none).map (.table .header) := by
  rw [Toml.parse, Text.Reader.parse?, String.toList_ofList]
  obtain _ | ⟨t, _ | _⟩ := Toml.readDocument cs <;> rfl

theorem fromUTF8_toUTF8 (text : String) : String.fromUTF8? text.toUTF8 = some text :=
  dif_pos text.isValidUTF8

theorem exists_load {text : String}
    (h : ((Toml.parse text).bind ofToml).any (fun c => c.accept.isOk) = true) :
    ∃ c, load (some text.toUTF8) = .ok c := by
  obtain ⟨c, hc, hok⟩ := Option.any_eq_true _ _ |>.mp h
  cases ha : c.accept with
  | error e => rw [ha] at hok; contradiction
  | ok d =>
    refine ⟨d, ?_⟩
    simp only [load, Option.bind_some, fromUTF8_toUTF8, hc, ha]
    rfl

end MarketQuery.Config
