import MarketQuery.Decimal.Amount
import MarketQuery.Filters.Nft
import MarketQuery.Text.Quoted

namespace MarketQuery.Filters

inductive ListField where
  | creator | contractAddresses | ids | urns
  deriving DecidableEq

def ListField.name : ListField → String
  | .creator => "creator"
  | .contractAddresses => "contractAddresses"
  | .ids => "ids"
  | .urns => "urns"

inductive PriceField where
  | minPrice | maxPrice
  deriving DecidableEq

def PriceField.name : PriceField → String
  | .minPrice => "minPrice"
  | .maxPrice => "maxPrice"

inductive BoundsField where
  | minEstateSize | minDistanceToPlaza
  deriving DecidableEq

def BoundsField.name : BoundsField → String
  | .minEstateSize => "minEstateSize"
  | .minDistanceToPlaza => "minDistanceToPlaza"

inductive Violation where
  /-- An entry of a list is white space alone. -/
  | blankEntry (field : ListField)
  | notAnAmount (field : PriceField) (value : String)
  | pricesInverted
  /-- No item is both listed only and minted only. -/
  | listingAndMinting
  | tokenIdNotDecimal
  | boundsInverted (field : BoundsField)
  | nothingToSearch
  deriving DecidableEq

namespace Violation

def field : Violation → String
  | .blankEntry f => f.name
  | .notAnAmount f _ => f.name
  | .pricesInverted => "minPrice"
  | .listingAndMinting => "onlyListing"
  | .tokenIdNotDecimal => "tokenId"
  | .boundsInverted f => f.name
  | .nothingToSearch => "search"

def detail : Violation → String
  | .blankEntry f => f.name ++ " must not contain blank entries."
  | .notAnAmount f value =>
    f.name ++ " must be a non-negative integer amount in wei, got " ++ Text.quote value ++ "."
  | .pricesInverted => "minPrice must not exceed maxPrice."
  | .listingAndMinting =>
    "onlyListing and onlyMinting select disjoint item sets and cannot be combined."
  | .tokenIdNotDecimal => "tokenId must be a decimal integer."
  | .boundsInverted f => f.name ++ " must not exceed its upper bound."
  | .nothingToSearch => "A search term is required to rank candidates."

def message (v : Violation) : String :=
  "Invalid filter " ++ v.field ++ ": " ++ v.detail

end Violation

abbrev Checked := Except Violation

def requireEntries (field : ListField) (values : List String) : Checked Unit :=
  if values.any Text.isBlank then .error (.blankEntry field) else .ok ()

def requireAmount (field : PriceField) : Option String → Checked Unit
  | some value => if Decimal.isAmount value then .ok () else .error (.notAnAmount field value)
  | none => .ok ()

def requirePrices (min max : Option String) : Checked Unit := do
  requireAmount .minPrice min
  requireAmount .maxPrice max
  match min, max with
  | some low, some high =>
    if Decimal.compareAmounts low high = .gt then .error .pricesInverted else .ok ()
  | _, _ => .ok ()

def requireBounds (field : BoundsField) : Option Int64 → Option Int64 → Checked Unit
  | some low, some high => if high < low then .error (.boundsInverted field) else .ok ()
  | _, _ => .ok ()

def requireTokenId : Option String → Checked Unit
  | some value => if Decimal.isAmount value then .ok () else .error .tokenIdNotDecimal
  | none => .ok ()

def isSet (flag : Option Bool) : Bool := flag = some true

def Catalog.check (f : Catalog) : Checked Unit := do
  requireEntries .creator f.creators
  requireEntries .contractAddresses f.contractAddresses
  requireEntries .ids f.ids
  requireEntries .urns f.urns
  requirePrices f.minPrice f.maxPrice
  if isSet f.onlyListing && isSet f.onlyMinting then .error .listingAndMinting else .ok ()

def Nft.check (f : Nft) : Checked Unit := do
  requireEntries .creator f.creators
  requireEntries .contractAddresses f.contractAddresses
  requireEntries .ids f.ids
  requirePrices f.minPrice f.maxPrice
  requireTokenId f.tokenId
  requireBounds .minEstateSize f.minEstateSize f.maxEstateSize
  requireBounds .minDistanceToPlaza f.minDistanceToPlaza f.maxDistanceToPlaza

end MarketQuery.Filters
