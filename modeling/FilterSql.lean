import FilterSql.Config.Load
import FilterSql.Embedded.Engine
import FilterSql.Embedded.Pattern
import FilterSql.Log.Masked
import FilterSql.Proofs.Mapping.Declarations
import FilterSql.Proofs.Observation.Combination
import FilterSql.Proofs.Observation.Measurement
import FilterSql.Proofs.Predicate.Catalog
import FilterSql.Proofs.Predicate.Geometry
import FilterSql.Proofs.Predicate.Integers
import FilterSql.Proofs.Predicate.Leaves
import FilterSql.Proofs.Predicate.NullLiterals
import FilterSql.Proofs.Predicate.PrefixSearch
import FilterSql.Proofs.Predicate.Temporal
import FilterSql.Proofs.Query.Dialects
import FilterSql.Proofs.Query.Grouped
import FilterSql.Proofs.Query.Independence
import FilterSql.Proofs.Query.Pages
import FilterSql.Proofs.Query.Parity
import FilterSql.Proofs.Query.Spelling
import FilterSql.Proofs.Records.Harvest
import FilterSql.Proofs.Records.Prolog
import FilterSql.Proofs.Records.Search
import FilterSql.Proofs.Session.Accounting
import FilterSql.Proofs.Session.Connections
import FilterSql.Proofs.Session.Operations
import FilterSql.Proofs.Session.Rejection
import FilterSql.Proofs.Session.Scopes
import FilterSql.Proofs.Time.Canonical
import FilterSql.Query.Wire
import FilterSql.Records.Store
import FilterSql.Proofs.Log.Lines
import FilterSql.Proofs.Time.Documents
import FilterSql.Proofs.Filter.Texts
import FilterSql.Proofs.Number.Differences
import FilterSql.Proofs.Embedded.Distance
import FilterSql.Proofs.Number.Decimals
import FilterSql.Proofs.Number.Shortest
import FilterSql.Proofs.Number.Display
import FilterSql.Proofs.Embedded.PointLocations
import FilterSql.Proofs.Sql.Naming
import FilterSql.Proofs.Sql.Registrations
import FilterSql.Proofs.Sql.Lexemes
import FilterSql.Proofs.Database.Sequence
