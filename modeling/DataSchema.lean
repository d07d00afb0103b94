import DataSchema.Cache
import DataSchema.Main
import DataSchema.Proofs.Conversion.LowerCasing
import DataSchema.Proofs.Merge.Grouping
import DataSchema.Proofs.Resolution.Cycles
import DataSchema.Proofs.Resolution.Precedence
import DataSchema.Proofs.Schema.Extension
import DataSchema.Proofs.Schema.Merging
import DataSchema.Proofs.Validation.Conformance
import DataSchema.Proofs.Node.References
import DataSchema.Proofs.Resolution.DepthLimit
import DataSchema.Proofs.Resolution.ReferenceCycles
import DataSchema.Proofs.MetaSchema.Legal
import DataSchema.Proofs.Resolution.FixedPoint
import DataSchema.Proofs.MetaSchema.Reading
import DataSchema.Proofs.Schema.Malformed
import DataSchema.Proofs.MetaSchema.Lawful
import DataSchema.Proofs.MetaSchema.Writing
import DataSchema.Proofs.Schema.LegalRoot
import DataSchema.Proofs.Schema.KeyedLists
import DataSchema.Proofs.Export.Agreement
import DataSchema.Proofs.Merge.Addresses
import DataSchema.Proofs.Merge.Repeated
import DataSchema.Proofs.Schema.Paths
import DataSchema.Proofs.Conversion.Failures
import DataSchema.Proofs.Validation.Unset
import DataSchema.Proofs.Validation.Walk
import DataSchema.Proofs.Schema.Legality
import DataSchema.Proofs.Schema.RoundTrip
import DataSchema.Proofs.Schema.Caching
import DataSchema.Proofs.Conversion.Faithful
import DataSchema.Proofs.Conversion.Repetition
import DataSchema.Proofs.Merge.OrderedMap
import DataSchema.Proofs.Node.Associativity
import DataSchema.Proofs.Store.Addressing
import DataSchema.Proofs.Schema.LargerStore
import DataSchema.Proofs.Validation.Reordering
import DataSchema.Proofs.Formats.AddressRanges
import DataSchema.Proofs.Export.DocumentationRows
import DataSchema.Proofs.Export.FormIds
import DataSchema.Proofs.Export.MarkdownTable
import DataSchema.Proofs.Document.Identity
import DataSchema.Proofs.Conversion.Places
import DataSchema.Proofs.Conversion.Integers
