import AliasBook.Registry.Loading
import AliasBook.Registry.Resolvers
import AliasBook.Registry.Shared
import AliasBook.Error.Message
import AliasBook.Json.Reader
import AliasBook.Proofs.Mapping.Aliases
import AliasBook.Proofs.Placeholder.Seams
import AliasBook.Proofs.Registry.Isolation
import AliasBook.Proofs.Registry.Refusal
import AliasBook.Proofs.Registry.Bulk
import AliasBook.Proofs.Registry.AnyOrder
import AliasBook.Proofs.Mapping.Listing
import AliasBook.Proofs.Registry.Listing
import AliasBook.Proofs.Log.Alarms
import AliasBook.Proofs.Registry.Alarms
import AliasBook.Proofs.Registry.Refusing
import AliasBook.Proofs.Registry.Query
import AliasBook.Proofs.Registry.Unharmed
import AliasBook.Proofs.Log.Sinks
import AliasBook.Proofs.Registry.Events
import AliasBook.Proofs.Registry.Logging
import AliasBook.Proofs.Text.Lines
import AliasBook.Proofs.Log.OneLine
import AliasBook.Proofs.Registry.LogLines
import AliasBook.Proofs.Registry.Loading
import AliasBook.Proofs.Registry.Renamed
import AliasBook.Proofs.Registry.Circle
import AliasBook.Proofs.Registry.Transitive
import AliasBook.Proofs.Registry.Between
import AliasBook.Proofs.Mapping.Canonical
import AliasBook.Proofs.Registry.Canonical
import AliasBook.Proofs.AliasLine
import AliasBook.Proofs.Placeholder.Relaxed
import AliasBook.Proofs.Json
import AliasBook.Proofs.Log.JsonLine
import AliasBook.Proofs.Error.Template
import AliasBook.Proofs.Error.Catalogue
import AliasBook.Proofs.Text.Case
import AliasBook.Proofs.Settings
import AliasBook.Proofs.Log.Layout
import AliasBook.Proofs.Registry.Configuring
import AliasBook.Proofs.Registry.FromEnvironment
