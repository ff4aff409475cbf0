import MarketQuery.Query.Catalog
import MarketQuery.Query.Nft

namespace MarketQuery.Query

open Filters (Checked Network)
open Sql (Statement)

structure Compiler where
  schemas : Schemas
  marketplaces : List String

namespace Compiler

def catalog (c : Compiler) (f : Filters.Catalog) : Checked Statement :=
  Catalog.statement c.schemas c.marketplaces f

def search (c : Compiler) (f : Filters.Catalog) : Checked Statement :=
  Ranking.statement c.schemas f

def nfts (c : Compiler) (f : Filters.Nft) : Checked Statement :=
  Nft.statement c.schemas c.marketplaces f

def nftByTokenId (c : Compiler) (contractAddress tokenId : String) (network : Network) :
    Checked Statement :=
  c.nfts (.ofTokenId contractAddress tokenId network)

end Compiler

end MarketQuery.Query
