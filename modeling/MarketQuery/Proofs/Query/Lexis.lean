import MarketQuery.Proofs.Config
import MarketQuery.Proofs.Query.Accepted
import MarketQuery.Proofs.Query.Catalog.Sketch
import MarketQuery.Proofs.Query.Nft.Sketch
import MarketQuery.Proofs.Sql.Lexis
import MarketQuery.Service

namespace MarketQuery.Query

open Sql (Fragment LexicallySafe Lexis Sketch Statement)

set_option maxRecDepth 100000

/-- The scanner gets through all sketches, and back to its start. -/
theorem sketches_scan :
    Catalog.sketch.val.read Lexis.scanner.reading [.start] = some [.start] ∧
      Ranking.sketch.val.read Lexis.scanner.reading [.start] = some [.start] ∧
      Nft.sketch.val.read Lexis.scanner.reading [.start] = some [.start] := by
  decide +kernel

/-- All parts that are opened on the way through a sketch are closed at its end. -/
theorem lexicallySafe_of_draws {schemas : Schemas} {contracts : List String} {k : Sketch}
    {x : Fragment} (h : k.Draws schemas contracts x) (hp : schemas.Plain)
    (hk : k.read Lexis.scanner.reading [.start] = some [.start]) :
    LexicallySafe x.render.toList := by
  obtain ⟨q, hq, hrun⟩ := h.scan hp hk
  cases List.mem_singleton.mp hq
  exact .of_run hrun rfl rfl rfl

/-- With settings that load, no request that is compiled makes a text that ends a statement, hides a
part of one, or leaves a quote or a parenthesis open. -/
theorem lexicallySafe_of_load {file : Option ByteArray} {config : Config} {s : Statement}
    (hload : Config.load file = .ok config) (h : (Compiler.ofConfig config).Compiles s) :
    LexicallySafe s.sql.toList := by
  obtain ⟨-, -, -, hp, -⟩ := Config.validate_eq_ok_iff.mp (Config.validate_of_load hload)
  obtain ⟨hcatalog, hranking, hnft⟩ := sketches_scan
  rcases h with ⟨f, hf⟩ | ⟨f, hf⟩ | ⟨f, hf⟩
  · obtain ⟨hcheck, rfl⟩ := Catalog.statement_eq_ok_iff.mp hf
    exact lexicallySafe_of_draws (Catalog.sketch.property _ _ f hcheck) hp hcatalog
  · obtain ⟨term, -, -, rfl⟩ := Ranking.statement_eq_ok_iff.mp hf
    exact lexicallySafe_of_draws (Ranking.sketch.property _ [] f term) hp hranking
  · obtain ⟨hcheck, rfl⟩ := Nft.statement_eq_ok_iff.mp hf
    exact lexicallySafe_of_draws (Nft.sketch.property _ _ f hcheck) hp hnft

def exampleSettings : String := "
[service]
log_level = \"info\"
[storage.postgres]
dsn = \"postgres://localhost\"
pool_max_conns = 5
[schemas]
marketplace = \"market_2\"
[marketplace]
ethereum_offchain_marketplace = \"0x2d6b3508f9aca32d2550f92b2addba932e73c1ff\"
polygon_offchain_marketplace = \"0x540fb08edb56aae562864b390542c97f562825ba\"
"

theorem load_exampleSettings :
    ∃ config, Config.load (some exampleSettings.toUTF8) = .ok config := by
  refine Config.exists_load ?_
  rw [exampleSettings, Config.toml_parse_ofList]
  decide +kernel

/-- A term may hold what would not be safe in the text. -/
theorem lexicallySafe_of_unsafe_term :
    ∃ config, Config.load (some exampleSettings.toUTF8) = .ok config ∧
      ∃ s, (Compiler.ofConfig config).catalog
        { search := some "it's -- a hat; (\\", isOnSale := some true, minPrice := some "1" } =
          .ok s ∧
        LexicallySafe s.sql.toList := by
  obtain ⟨config, hload⟩ := load_exampleSettings
  have hcompiles : (Compiler.ofConfig config).catalog
      { search := some "it's -- a hat; (\\", isOnSale := some true, minPrice := some "1" } =
        .ok ⟨Catalog.body _ _ _⟩ :=
    Catalog.statement_eq_ok_iff.mpr ⟨by decide, rfl⟩
  exact ⟨config, hload, _, hcompiles, lexicallySafe_of_load hload (.inl ⟨_, hcompiles⟩)⟩

end MarketQuery.Query
