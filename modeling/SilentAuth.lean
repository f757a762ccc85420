import SilentAuth.Account
import SilentAuth.Application
import SilentAuth.Authority
import SilentAuth.Cache.Document
import SilentAuth.Cache.Key
import SilentAuth.Cache.Lookup
import SilentAuth.Cache.Record
import SilentAuth.Cache.Save
import SilentAuth.Cache.Store
import SilentAuth.Cache.TokenCache
import SilentAuth.Decision
import SilentAuth.Deployment
import SilentAuth.Dict
import SilentAuth.Discovery
import SilentAuth.Error
import SilentAuth.Http.DiscoveryEndpoint
import SilentAuth.Http.Message
import SilentAuth.Http.TokenEndpoint
import SilentAuth.Json.Decode
import SilentAuth.Json.Double
import SilentAuth.Json.Reader
import SilentAuth.Json.Value
import SilentAuth.Plan
import SilentAuth.Proofs.Authority.Canonical
import SilentAuth.Proofs.Authority.Retargeting
import SilentAuth.Proofs.Cache.Absorption
import SilentAuth.Proofs.Cache.Bare
import SilentAuth.Proofs.Cache.Documents
import SilentAuth.Proofs.Cache.Entries
import SilentAuth.Proofs.Cache.Every
import SilentAuth.Proofs.Cache.Faithful
import SilentAuth.Proofs.Cache.Families
import SilentAuth.Proofs.Cache.Fitting
import SilentAuth.Proofs.Cache.Identity
import SilentAuth.Proofs.Cache.Isolation
import SilentAuth.Proofs.Cache.Keeping
import SilentAuth.Proofs.Cache.Keys
import SilentAuth.Proofs.Cache.Lookup
import SilentAuth.Proofs.Cache.Merge
import SilentAuth.Proofs.Cache.Overlap
import SilentAuth.Proofs.Cache.OwnTokens
import SilentAuth.Proofs.Cache.ReadBack
import SilentAuth.Proofs.Cache.Reconciliation
import SilentAuth.Proofs.Cache.Records
import SilentAuth.Proofs.Cache.RehostedTexts
import SilentAuth.Proofs.Cache.Rehosting
import SilentAuth.Proofs.Cache.Removal
import SilentAuth.Proofs.Cache.Replacement
import SilentAuth.Proofs.Cache.Rereading
import SilentAuth.Proofs.Cache.RoundTrip
import SilentAuth.Proofs.Cache.Saving
import SilentAuth.Proofs.Cache.ScopeOrder
import SilentAuth.Proofs.Cache.Searches
import SilentAuth.Proofs.Cache.Selection
import SilentAuth.Proofs.Cache.Steady
import SilentAuth.Proofs.Cache.Survival
import SilentAuth.Proofs.Cache.Sweep
import SilentAuth.Proofs.Cache.Valued
import SilentAuth.Proofs.Cache.WellKeyed
import SilentAuth.Proofs.Cache.Writers
import SilentAuth.Proofs.Cache.Written
import SilentAuth.Proofs.Dict.Filter
import SilentAuth.Proofs.Discovery.Classes
import SilentAuth.Proofs.Discovery.Interleaving
import SilentAuth.Proofs.Discovery.Partition
import SilentAuth.Proofs.Discovery.Questions
import SilentAuth.Proofs.Discovery.Registration
import SilentAuth.Proofs.Discovery.Runs
import SilentAuth.Proofs.Discovery.Validation
import SilentAuth.Proofs.Double.Finite
import SilentAuth.Proofs.Double.Rounding
import SilentAuth.Proofs.Double.Shortest
import SilentAuth.Proofs.Http.Grants
import SilentAuth.Proofs.Json.Machine
import SilentAuth.Proofs.Json.Members
import SilentAuth.Proofs.Json.Numbers
import SilentAuth.Proofs.Json.Objects
import SilentAuth.Proofs.Json.Spelling
import SilentAuth.Proofs.Json.Values
import SilentAuth.Proofs.Scope.Coverage
import SilentAuth.Proofs.Session.Access
import SilentAuth.Proofs.Session.Flag
import SilentAuth.Proofs.Session.InMemory
import SilentAuth.Proofs.Session.Rehosting
import SilentAuth.Proofs.Session.Reopening
import SilentAuth.Proofs.Session.Sharing
import SilentAuth.Proofs.Session.Triples
import SilentAuth.Proofs.Silent.Acquisition
import SilentAuth.Proofs.Silent.Asking
import SilentAuth.Proofs.Silent.CacheServed
import SilentAuth.Proofs.Silent.Convergence
import SilentAuth.Proofs.Silent.Degradation
import SilentAuth.Proofs.Silent.Freshness
import SilentAuth.Proofs.Silent.Offer
import SilentAuth.Proofs.Silent.OwnTokens
import SilentAuth.Proofs.Silent.Reached
import SilentAuth.Proofs.Silent.Redemption
import SilentAuth.Proofs.Silent.Rehosting
import SilentAuth.Proofs.Silent.Removal
import SilentAuth.Proofs.Silent.Renewal
import SilentAuth.Proofs.Silent.Rotation
import SilentAuth.Proofs.Silent.Tenants
import SilentAuth.Proofs.Silent.Unwritten
import SilentAuth.Proofs.Silent.Usability
import SilentAuth.Proofs.Text.Numerals
import SilentAuth.Proofs.Text.Pieces
import SilentAuth.Proofs.Text.Secrets
import SilentAuth.Proofs.Text.Words
import SilentAuth.Proofs.Url.Addresses
import SilentAuth.Proofs.Url.Folders
import SilentAuth.Proofs.Url.Hosts
import SilentAuth.Proofs.Url.Names
import SilentAuth.Proofs.Url.Paths
import SilentAuth.Proofs.Url.Places
import SilentAuth.Proofs.Url.Written
import SilentAuth.Refresh
import SilentAuth.Scope
import SilentAuth.Secret
import SilentAuth.Session
import SilentAuth.Storage
import SilentAuth.Text.Base64
import SilentAuth.Text.Blank
import SilentAuth.Text.Case
import SilentAuth.Text.Numeral
import SilentAuth.Text.Offset
import SilentAuth.Text.Quoted
import SilentAuth.Text.Split
import SilentAuth.Text.Utf8
import SilentAuth.Time
import SilentAuth.Unicode.Composition
import SilentAuth.Unicode.Direction
import SilentAuth.Unicode.Hidden
import SilentAuth.Unicode.HostMapping
import SilentAuth.Unicode.Joining
import SilentAuth.Unicode.Table
import SilentAuth.Url
import SilentAuth.Url.Address
import SilentAuth.Url.Domain
import SilentAuth.Url.Host
import SilentAuth.Url.Percent
import SilentAuth.Url.Punycode
