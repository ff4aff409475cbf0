namespace MarketQuery

inductive SchemaRole where
  /-- Items, tokens, orders, metadata, accounts, land and names, as indexed from the chain. -/
  | marketplace
  /-- What curators add: utility texts and tags. -/
  | builderServer
  /-- Trades signed off the chain. -/
  | trades
  /-- Their settlement, and the signature indexes, on the chain. -/
  | squidTrades
  deriving DecidableEq

structure Schemas where
  marketplace : String := "squid_marketplace"
  builderServer : String := "builder_server"
  trades : String := "marketplace"
  squidTrades : String := "squid_trades"
  deriving DecidableEq, Inhabited

namespace Schemas

def name (s : Schemas) : SchemaRole → String
  | .marketplace => s.marketplace
  | .builderServer => s.builderServer
  | .trades => s.trades
  | .squidTrades => s.squidTrades

end Schemas

end MarketQuery
