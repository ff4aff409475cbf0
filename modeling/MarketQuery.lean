import MarketQuery.Main
import MarketQuery.Sql.Edit
import MarketQuery.Proofs.Query.Faithful
import MarketQuery.Proofs.Query.Noninterference
import MarketQuery.Proofs.Query.Placeholders
import MarketQuery.Proofs.Query.Places
import MarketQuery.Proofs.Service.Blame
import MarketQuery.Proofs.Service.Sending
import MarketQuery.Proofs.Query.Values
import MarketQuery.Proofs.Config.Loading
import MarketQuery.Proofs.Query.Lexis
import MarketQuery.Proofs.Query.Scope
import MarketQuery.Proofs.Service.Preranked
import MarketQuery.Proofs.Filters.RoundTrip
import MarketQuery.Proofs.Query.Conjunction
import MarketQuery.Proofs.Query.Locality
import MarketQuery.Proofs.Query.Faults
import MarketQuery.Proofs.Sql.Edit
