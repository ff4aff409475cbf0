import MarketQuery.Json.Codec
import MarketQuery.Schemas
import MarketQuery.Text.Normal
import MarketQuery.Toml.Reader

namespace MarketQuery

open Json (Codec Leeway RecordField)

inductive Chain where
  | ethereum | polygon
  deriving DecidableEq

/-- The contracts on which trades made off the chain are settled. -/
structure Marketplace where
  ethereum : String := ""
  polygon : String := ""
  deriving DecidableEq

namespace Marketplace

def address (m : Marketplace) : Chain → String
  | .ethereum => m.ethereum
  | .polygon => m.polygon

/-- The contracts as the trades name them, that of Ethereum first. -/
def contracts (m : Marketplace) : List String :=
  [Text.lowercase m.ethereum, Text.lowercase m.polygon]

end Marketplace

structure Config where
  logLevel : String := ""
  dsn : String := ""
  poolMaxConns : UInt32 := 0
  schemas : Schemas := {}
  marketplace : Marketplace := {}
  deriving DecidableEq

def Schemas.fields : List (RecordField Schemas) :=
  [.optional "marketplace" .text marketplace fun x s => { s with marketplace := x },
   .optional "builder_server" .text builderServer fun x s => { s with builderServer := x },
   .optional "trades" .text trades fun x s => { s with trades := x },
   .optional "squid_trades" .text squidTrades fun x s => { s with squidTrades := x }]

def Schemas.decode (v : Json.Value) : Option Schemas := RecordField.decodeRecord .json fields {} v

namespace Config

def group (leeway : Leeway) (name : String) (required : Bool) (fields : List (RecordField S))
    (get : Config → S) (set : S → Config → Config) : RecordField Config where
  name := name
  write c := RecordField.encodeRecord fields (get c)
  read v c := (RecordField.decodeRecord leeway fields (get c) v).map (set · c)
  required := required

def fields (leeway : Leeway) : List (RecordField Config) :=
  [group leeway "service" true
     [.mandatory "log_level" .text logLevel fun x c => { c with logLevel := x }] id fun x _ => x,
   group leeway "storage" true
     [group leeway "postgres" true
       [.mandatory "dsn" .text dsn fun x c => { c with dsn := x },
        .mandatory "pool_max_conns" .word32 poolMaxConns fun x c => { c with poolMaxConns := x }]
       id fun x _ => x] id fun x _ => x,
   group leeway "schemas" false Schemas.fields schemas fun x c => { c with schemas := x },
   group leeway "marketplace" true
     [.mandatory "ethereum_offchain_marketplace" .text Marketplace.ethereum
        fun x m => { m with ethereum := x },
      .mandatory "polygon_offchain_marketplace" .text Marketplace.polygon
        fun x m => { m with polygon := x }]
     marketplace fun x c => { c with marketplace := x }]

def decode (v : Json.Value) : Option Config := RecordField.decodeRecord .json (fields .json) {} v

def ofToml (v : Toml.Value) : Option Config :=
  RecordField.decodeRecord .toml (fields .toml) {} v.toJson

end Config

def isIdentifier (s : String) : Bool :=
  match s.toList with
  | [] => false
  | c :: cs => (c.isAlpha || c = '_') && cs.all fun c => c.isAlphanum || c = '_'

def isAddress (s : String) : Bool :=
  match s.toList with
  | '0' :: 'x' :: ds => ds.length = 40 && ds.all fun c => (Json.hexDigit? c).isSome
  | _ => false

inductive ConfigError where
  | blankLogLevel
  | blankDsn
  | noConnections
  | notIdentifier (role : SchemaRole)
  | notAddress (chain : Chain)
  deriving DecidableEq

def SchemaRole.setting : SchemaRole → String
  | .marketplace => "schemas.marketplace"
  | .builderServer => "schemas.builder_server"
  | .trades => "schemas.trades"
  | .squidTrades => "schemas.squid_trades"

def Chain.setting : Chain → String
  | .ethereum => "marketplace.ethereum_offchain_marketplace"
  | .polygon => "marketplace.polygon_offchain_marketplace"

def ConfigError.message : ConfigError → String
  | .blankLogLevel => "service.log_level must be non-empty."
  | .blankDsn => "storage.postgres.dsn must be non-empty."
  | .noConnections => "storage.postgres.pool_max_conns must be greater than zero."
  | .notIdentifier role => role.setting ++ " must be a plain SQL identifier."
  | .notAddress chain => chain.setting ++ " must be a 0x-prefixed 20-byte hex address."

/-- Why settings cannot be had from a file. -/
inductive LoadError where
  /-- There is no such file, or it is not text. -/
  | unreadable
  /-- It is not TOML, or lacks a setting, or has one of another type. -/
  | malformed
  | invalid (e : ConfigError)

namespace Config

def normalize (c : Config) : Config :=
  { c with
    logLevel := Text.trim c.logLevel
    schemas :=
      { marketplace := Text.trim c.schemas.marketplace
        builderServer := Text.trim c.schemas.builderServer
        trades := Text.trim c.schemas.trades
        squidTrades := Text.trim c.schemas.squidTrades }
    marketplace :=
      { ethereum := Text.lowercase (Text.trim c.marketplace.ethereum)
        polygon := Text.lowercase (Text.trim c.marketplace.polygon) } }

def require (holds : Bool) (e : ConfigError) : Except ConfigError Unit :=
  if holds then .ok () else .error e

def validate (c : Config) : Except ConfigError Unit := do
  require (! Text.isBlank c.logLevel) .blankLogLevel
  require (! Text.isBlank c.dsn) .blankDsn
  require (0 < c.poolMaxConns) .noConnections
  for role in [SchemaRole.marketplace, .builderServer, .trades, .squidTrades] do
    require (isIdentifier (c.schemas.name role)) (.notIdentifier role)
  for chain in [Chain.ethereum, .polygon] do
    require (isAddress (c.marketplace.address chain)) (.notAddress chain)

def accept (c : Config) : Except ConfigError Config := do
  c.normalize.validate
  return c.normalize

def load (file : Option ByteArray) : Except LoadError Config := do
  let some text := file.bind String.fromUTF8? | throw .unreadable
  let some c := (Toml.parse text).bind ofToml | throw .malformed
  c.accept.mapError .invalid

end Config

end MarketQuery
