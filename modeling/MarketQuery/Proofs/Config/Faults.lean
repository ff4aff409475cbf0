import Mathlib.Data.List.Nodup
import MarketQuery.Proofs.Config
import MarketQuery.Proofs.Config.Spelling

namespace MarketQuery

namespace ConfigError

/-- What an error says of the settings in the file. -/
def Found (c : Config) : ConfigError → Prop
  | .blankLogLevel => Text.trim c.logLevel = ""
  | .blankDsn => Text.trim c.dsn = ""
  | .noConnections => c.poolMaxConns = 0
  | .notIdentifier role => ¬ PlainName (Text.trim (c.schemas.name role))
  | .notAddress chain => ¬ Address (Text.trim (c.marketplace.address chain))

def inOrder : List ConfigError :=
  [.blankLogLevel, .blankDsn, .noConnections,
   .notIdentifier .marketplace, .notIdentifier .builderServer, .notIdentifier .trades,
   .notIdentifier .squidTrades, .notAddress .ethereum, .notAddress .polygon]

def FoundFirst (c : Config) (e : ConfigError) : Prop :=
  e.Found c ∧ ∃ before after, inOrder = before ++ e :: after ∧ ∀ x ∈ before, ¬ x.Found c

def holds (c : Config) : ConfigError → Bool
  | .blankLogLevel => Text.isBlank c.logLevel
  | .blankDsn => Text.isBlank c.dsn
  | .noConnections => !decide (0 < c.poolMaxConns)
  | .notIdentifier role => !isIdentifier (c.schemas.name role)
  | .notAddress chain => !isAddress (c.marketplace.address chain)

theorem mem_inOrder (e : ConfigError) : e ∈ inOrder := by
  rcases e with _ | _ | _ | role | chain
  case notIdentifier => cases role <;> decide
  case notAddress => cases chain <;> decide
  all_goals decide

/-- What is reported is the setting at fault by its name in the file, and what it should be. -/
theorem messages_inOrder : inOrder.map message =
    ["service.log_level must be non-empty.",
     "storage.postgres.dsn must be non-empty.",
     "storage.postgres.pool_max_conns must be greater than zero.",
     "schemas.marketplace must be a plain SQL identifier.",
     "schemas.builder_server must be a plain SQL identifier.",
     "schemas.trades must be a plain SQL identifier.",
     "schemas.squid_trades must be a plain SQL identifier.",
     "marketplace.ethereum_offchain_marketplace must be a 0x-prefixed 20-byte hex address.",
     "marketplace.polygon_offchain_marketplace must be a 0x-prefixed 20-byte hex address."] := by
  decide

/-- No two errors are reported in the same words. -/
theorem message_injective : Function.Injective message := by
  intro a b h
  have hnodup : (inOrder.map message).Nodup := by
    rw [messages_inOrder]
    decide
  exact List.inj_on_of_nodup_map hnodup (mem_inOrder a) (mem_inOrder b) h

/-- A check of tidied settings fails exactly if the settings in the file have the fault it looks
for. -/
theorem holds_normalize (c : Config) (e : ConfigError) :
    e.holds c.normalize = true ↔ e.Found c := by
  rcases e with _ | _ | _ | role | chain
  case blankLogLevel =>
    rw [holds, Found, Config.normalize, Text.isBlank_iff_trim_eq_empty, Text.trim_trim]
  case blankDsn => exact Text.isBlank_iff_trim_eq_empty
  case noConnections =>
    rw [holds, Found, Config.normalize, Bool.not_eq_true', decide_eq_false_iff_not,
      ← UInt32.toNat_inj, UInt32.lt_iff_toNat_lt]
    simp
  case notIdentifier =>
    have hname : c.normalize.schemas.name role = Text.trim (c.schemas.name role) := by
      cases role <;> rfl
    rw [holds, Found, hname, Bool.not_eq_true', ← Bool.not_eq_true, isIdentifier_iff]
  case notAddress =>
    have haddress : c.normalize.marketplace.address chain =
        Text.lowercase (Text.trim (c.marketplace.address chain)) := by
      cases chain <;> rfl
    rw [holds, Found, haddress, Bool.not_eq_true', ← Bool.not_eq_true, isAddress_lowercase_iff]

end ConfigError

namespace Config

open ConfigError (Found FoundFirst inOrder mem_inOrder)

/-- Of several requirements, the first that is not met is reported. -/
theorem forM_require (fails : ConfigError → Bool) (es : List ConfigError) :
    (forM es fun e => require (!fails e) e) = (es.find? fails).elim (.ok ()) .error := by
  induction es with
  | nil => rfl
  | cons e es ih =>
    rw [List.forM_cons, List.find?_cons]
    cases fails e
    · exact ih
    · rfl

/-- The checks are one pass over the errors in their order. -/
theorem validate_eq (c : Config) :
    c.validate = (inOrder.find? (·.holds c)).elim (.ok ()) .error := by
  rw [← forM_require]
  simp [validate, inOrder, ConfigError.holds]

/-- Settings pass exactly if none of the faults is found in the file. -/
theorem validate_normalize_eq_ok_iff {c : Config} :
    c.normalize.validate = .ok () ↔ ∀ e, ¬ Found c e := by
  rw [validate_eq]
  cases hfind : inOrder.find? (·.holds c.normalize) with
  | none =>
    refine ⟨fun _ e => ?_, fun _ => rfl⟩
    rw [← ConfigError.holds_normalize]
    exact List.find?_eq_none.mp hfind e (mem_inOrder e)
  | some e =>
    have hfound := (ConfigError.holds_normalize c e).mp (List.find?_some hfind)
    exact ⟨nofun, fun h => absurd hfound (h e)⟩

/-- What is reported is the fault that is found before all others. -/
theorem validate_normalize_eq_error_iff {c : Config} {e : ConfigError} :
    c.normalize.validate = .error e ↔ FoundFirst c e := by
  have hfind : c.normalize.validate = .error e ↔
      inOrder.find? (·.holds c.normalize) = some e := by
    rw [validate_eq]
    cases inOrder.find? (·.holds c.normalize) <;> simp
  rw [hfind, List.find?_eq_some_iff_append]
  simp only [FoundFirst, Bool.not_eq_true', ← Bool.not_eq_true, ConfigError.holds_normalize]

theorem accept_eq (c : Config) : c.accept = c.normalize.validate.map fun _ => c.normalize := by
  rw [accept]
  cases c.normalize.validate <;> rfl

theorem load_eq {bytes : ByteArray} {text : String} {c : Config}
    (hbytes : String.fromUTF8? bytes = some text) (hc : (Toml.parse text).bind ofToml = some c) :
    load (some bytes) = (c.normalize.validate.map fun _ => c.normalize).mapError .invalid := by
  rw [← accept_eq]
  simp only [load, Option.bind_some, hbytes, hc]

end Config

end MarketQuery
