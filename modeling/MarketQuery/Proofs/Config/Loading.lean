import MarketQuery.Proofs.Config.Faults
import MarketQuery.Proofs.Query.Contracts
import MarketQuery.Service

namespace MarketQuery.Config

open ConfigError (Found FoundFirst)
open Query (Compiler ReadsTrades)

/-- The settings of a file as they are meant: without white space around them, and with addresses in
small letters. -/
structure Tidied (c d : Config) : Prop where
  logLevel : d.logLevel = Text.trim c.logLevel
  dsn : d.dsn = c.dsn
  poolMaxConns : d.poolMaxConns = c.poolMaxConns
  schemas : ∀ role, d.schemas.name role = Text.trim (c.schemas.name role)
  marketplace : ∀ chain, d.marketplace.address chain =
    Text.lowercase (Text.trim (c.marketplace.address chain))

theorem tidied_normalize (c : Config) : Tidied c c.normalize where
  logLevel := rfl
  dsn := rfl
  poolMaxConns := rfl
  schemas role := by cases role <;> rfl
  marketplace chain := by cases chain <;> rfl

section Accepted

variable {c : Config} (h : ∀ e, ¬ Found c e)

include h

theorem address_of_not_found (chain : Chain) :
    Address (Text.trim (c.marketplace.address chain)) :=
  not_not.mp (h (.notAddress chain))

/-- An address that is let through is in small letters, with no white space around it. -/
theorem lowercase_address (chain : Chain) :
    Text.lowercase (c.normalize.marketplace.address chain) =
      c.normalize.marketplace.address chain := by
  rw [(tidied_normalize c).marketplace chain]
  exact Text.lowercase_lowercase_ascii (address_of_not_found h chain).ascii

theorem trim_address (chain : Chain) :
    Text.trim (c.normalize.marketplace.address chain) = c.normalize.marketplace.address chain := by
  rw [(tidied_normalize c).marketplace chain]
  exact Text.trim_eq_self
    (not_isSpace_of_isAddress (isAddress_lowercase_iff.mpr (address_of_not_found h chain)))

/-- Settings without a fault are tidied up once and for all. -/
theorem normalize_normalize : c.normalize.normalize = c.normalize := by
  have haddress (chain : Chain) :
      Text.lowercase (Text.trim (c.normalize.marketplace.address chain)) =
        c.normalize.marketplace.address chain := by
    rw [trim_address h, lowercase_address h]
  have hethereum := haddress .ethereum
  have hpolygon := haddress .polygon
  simp only [Marketplace.address, normalize] at hethereum hpolygon
  simp only [normalize, Text.trim_trim, hethereum, hpolygon]

/-- Lowercasing both addresses, as is done whenever they are handed on, leaves them as they are. -/
theorem lowercase_addresses :
    [Text.lowercase c.normalize.marketplace.ethereum,
      Text.lowercase c.normalize.marketplace.polygon] =
    [c.normalize.marketplace.ethereum, c.normalize.marketplace.polygon] :=
  congrArg₂ (fun e p => [e, p]) (lowercase_address h .ethereum) (lowercase_address h .polygon)

/-- The addresses are bound as they stand in the settings: lowercasing them once more changes
nothing. -/
theorem head_params_of_compiles {s : Sql.Statement}
    (hs : (Compiler.ofConfig c.normalize).Compiles s) (htrades : ReadsTrades s) :
    s.params.head? = some (.textArray
      [c.normalize.marketplace.ethereum, c.normalize.marketplace.polygon]) := by
  obtain ⟨-, -, -, hplain, -⟩ := validate_eq_ok_iff.mp (validate_normalize_eq_ok_iff.mpr h)
  have hstored : (Compiler.ofConfig c.normalize).marketplaces =
      [c.normalize.marketplace.ethereum, c.normalize.marketplace.polygon] :=
    lowercase_addresses h
  rw [hs.head_params hplain htrades, hstored, List.map_cons, List.map_singleton,
    lowercase_addresses h]

end Accepted

/-- A file of settings is let through exactly if nothing is wrong with it, and the first thing that
is wrong is reported. Settings that are let through have been tidied up once and for all: doing it
again changes nothing, and statements bind the addresses as they stand in them. -/
theorem load_exact {bytes : ByteArray} {text : String} {c : Config}
    (hbytes : String.fromUTF8? bytes = some text) (hc : (Toml.parse text).bind ofToml = some c) :
    ((∃ d, load (some bytes) = .ok d) ↔ ∀ e, ¬ Found c e) ∧
    (∀ e, load (some bytes) = .error (.invalid e) ↔ FoundFirst c e) ∧
    (∀ e, Found c e → ∃ first, FoundFirst c first) ∧
    ∀ d, load (some bytes) = .ok d →
      Tidied c d ∧ d.normalize = d ∧ d.validate = .ok () ∧
      ∀ s, (Compiler.ofConfig d).Compiles s → ReadsTrades s →
        s.params.head? = some (.textArray [d.marketplace.ethereum, d.marketplace.polygon]) := by
  have hload := load_eq hbytes hc
  cases hv : c.normalize.validate with
  | ok u =>
    have hnone := validate_normalize_eq_ok_iff.mp hv
    rw [hv] at hload
    refine ⟨⟨fun _ => hnone, fun _ => ⟨_, hload⟩⟩, fun e => ?_, fun e he => absurd he (hnone e), ?_⟩
    · rw [hload]
      exact ⟨nofun, fun he => absurd he.1 (hnone e)⟩
    · intro d hd
      cases hload.symm.trans hd
      exact ⟨tidied_normalize c, normalize_normalize hnone, hv,
        fun s hs htrades => head_params_of_compiles hnone hs htrades⟩
  | error e =>
    have hfirst := validate_normalize_eq_error_iff.mp hv
    rw [hv] at hload
    refine ⟨⟨fun ⟨d, hd⟩ => ?_, fun h => absurd hfirst.1 (h e)⟩, fun x => ?_,
      fun _ _ => ⟨e, hfirst⟩, fun d hd => ?_⟩
    · cases hload.symm.trans hd
    · rw [hload, ← validate_normalize_eq_error_iff, hv]
      exact ⟨fun h => by cases h; rfl, fun h => by cases h; rfl⟩
    · cases hload.symm.trans hd

/-- Settings with white space and capital letters where they may be. -/
def untidySettings : String := "
[service]
log_level = \" info \"
[storage.postgres]
dsn = \" postgres://localhost\"
pool_max_conns = 1
[schemas]
trades = \"\u00a0_trades9\"
[marketplace]
ethereum_offchain_marketplace = \" 0X2D6B3508F9aca32d2550f92b2addba932e73c1ff\"
polygon_offchain_marketplace = \"0x540fb08edb56aae562864b390542c97f562825BA \"
"

/-- Settings with a name that begins with a digit, and with addresses that are too short. -/
def faultySettings : String := "
service.log_level = 'info'
storage.postgres = \x7b dsn = 'postgres://', pool_max_conns = 1 \x7d
schemas.trades = '9trades'
[marketplace]
ethereum_offchain_marketplace = '0xё'
polygon_offchain_marketplace = ''
"

/-- Of two files, one is let through tidied up, and one is refused for the first of its three
faults. -/
theorem load_exact_untidy :
    (∃ c d, (Toml.parse untidySettings).bind ofToml = some c ∧
      load (some untidySettings.toUTF8) = .ok d ∧ Tidied c d ∧
      d.schemas.trades = "_trades9" ∧
      ∃ s, (Compiler.ofConfig d).nfts {} = .ok s ∧ ReadsTrades s ∧
        s.params.head? = some (.textArray ["0x2d6b3508f9aca32d2550f92b2addba932e73c1ff",
          "0x540fb08edb56aae562864b390542c97f562825ba"])) ∧
    load (some faultySettings.toUTF8) = .error (.invalid (.notIdentifier .trades)) := by
  have huntidy : (Toml.parse untidySettings).bind ofToml = some
      { logLevel := " info "
        dsn := " postgres://localhost"
        poolMaxConns := 1
        schemas := { trades := "\u00a0_trades9" }
        marketplace :=
          { ethereum := " 0X2D6B3508F9aca32d2550f92b2addba932e73c1ff"
            polygon := "0x540fb08edb56aae562864b390542c97f562825BA " } } := by
    rw [untidySettings, toml_parse_ofList]
    decide +kernel
  have hfaulty : (Toml.parse faultySettings).bind ofToml = some
      { logLevel := "info"
        dsn := "postgres://"
        poolMaxConns := 1
        schemas := { trades := "9trades" }
        marketplace := { ethereum := "0xё", polygon := "" } } := by
    rw [faultySettings, toml_parse_ofList]
    decide +kernel
  obtain ⟨hloads, -, -, hfixed⟩ := load_exact (fromUTF8_toUTF8 _) huntidy
  obtain ⟨-, hblames, -, -⟩ := load_exact (fromUTF8_toUTF8 _) hfaulty
  refine ⟨?_, ?_⟩
  · obtain ⟨d, hd⟩ := hloads.mpr (validate_normalize_eq_ok_iff.mp (by decide +kernel))
    obtain ⟨htidied, -, -, hparams⟩ := hfixed d hd
    have hcheck : ({} : Filters.Nft).check = .ok () := by decide
    have hcompiles : (Compiler.ofConfig d).nfts {} = .ok ⟨Query.Nft.body _ _ _⟩ :=
      Query.Nft.statement_eq_ok_iff.mpr ⟨hcheck, rfl⟩
    have hreads := Query.Nft.readsTrades d.schemas d.marketplace.contracts {}
    refine ⟨_, d, huntidy, hd, htidied, (htidied.schemas .trades).trans (by decide +kernel), _,
      hcompiles, hreads, ?_⟩
    have hethereum : d.marketplace.ethereum = _ := htidied.marketplace .ethereum
    have hpolygon : d.marketplace.polygon = _ := htidied.marketplace .polygon
    rw [hparams _ (.inr (.inr ⟨_, hcompiles⟩)) hreads, hethereum, hpolygon]
    decide +kernel
  · exact (hblames _).mpr (validate_normalize_eq_error_iff.mp (by decide +kernel))

end MarketQuery.Config
