import PartSourcing.Main
import PartSourcing.Memory.Volatile
import PartSourcing.Proofs.Config.RoundTrip
import PartSourcing.Proofs.Memory.AnyOrder
import PartSourcing.Proofs.Memory.Dominance
import PartSourcing.Proofs.Memory.Isolation
import PartSourcing.Proofs.Memory.LastWrite
import PartSourcing.Proofs.Search.Arrival
import PartSourcing.Proofs.Search.Disabling
import PartSourcing.Proofs.Search.Failure
import PartSourcing.Proofs.Search.Identities
import PartSourcing.Proofs.Search.Quotes
import PartSourcing.Proofs.Search.Recall
import PartSourcing.Proofs.Search.Recorded
import PartSourcing.Proofs.Search.Untouched
import PartSourcing.Proofs.Sighting.HistoryRule
import PartSourcing.Proofs.Sighting.MergeRule
import PartSourcing.Proofs.Search.Asking
import PartSourcing.Proofs.Provider.Answers
import PartSourcing.Proofs.Search.LastAnswers
import PartSourcing.Proofs.Listing.LeadingNumber
import PartSourcing.Proofs.Listing.Marks
import PartSourcing.Proofs.Listing.DecoratedPrice
import PartSourcing.Proofs.SearchTerms
import PartSourcing.Proofs.Text.SettledLower
import PartSourcing.Proofs.Retry.Delay
import PartSourcing.Proofs.Spelling
import PartSourcing.Proofs.Provider.Reading
import PartSourcing.Proofs.Provider.Requested
import PartSourcing.Proofs.Listing.NamedCurrency
import PartSourcing.Proofs.Provider.Currency
import PartSourcing.Proofs.Decimal.ExactValue
import PartSourcing.Proofs.Decimal.Rounding
import PartSourcing.Proofs.Decimal.Nearest
import PartSourcing.Proofs.Listing.Quantity
import PartSourcing.Proofs.Lexicon
import PartSourcing.Proofs.Decimal.Operations
import PartSourcing.Proofs.Decimal.Unit
import PartSourcing.Proofs.Score.Accepted
import PartSourcing.Proofs.Score.Factors
import PartSourcing.Proofs.Score.Composite
import PartSourcing.Proofs.Calendar.Order
import PartSourcing.Proofs.Score.Cheaper
import PartSourcing.Proofs.Score.Better
import PartSourcing.Proofs.Score.Bounds
import PartSourcing.Proofs.Provider.Breaks
import PartSourcing.Proofs.Provider.Availability
import PartSourcing.Proofs.Provider.Flattened
import PartSourcing.Proofs.Url.Canonical
