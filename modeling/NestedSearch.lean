import NestedSearch.Compatibility
import NestedSearch.Compile
import NestedSearch.Config
import NestedSearch.Corpus.Document
import NestedSearch.Corpus.Evaluation
import NestedSearch.Corpus.Neighbours
import NestedSearch.Corpus.Search
import NestedSearch.Decimal.Binary
import NestedSearch.Decimal.Layout
import NestedSearch.Decimal.Shortest
import NestedSearch.Error
import NestedSearch.FieldPath
import NestedSearch.Json.Basic
import NestedSearch.Json.Decode
import NestedSearch.Json.Number
import NestedSearch.Json.Reader
import NestedSearch.Json.Writer
import NestedSearch.NameMap
import NestedSearch.Named
import NestedSearch.Param
import NestedSearch.Placement
import NestedSearch.Predicate.Basic
import NestedSearch.Predicate.Builder
import NestedSearch.Predicate.Check
import NestedSearch.Predicate.Codec
import NestedSearch.Proofs.Chain
import NestedSearch.Proofs.Compatibility
import NestedSearch.Proofs.Compile
import NestedSearch.Proofs.Configuration
import NestedSearch.Proofs.Corpus.Algebra
import NestedSearch.Proofs.Corpus.Containment
import NestedSearch.Proofs.Corpus.Declared
import NestedSearch.Proofs.Corpus.Distribution
import NestedSearch.Proofs.Corpus.Document
import NestedSearch.Proofs.Corpus.Evaluation
import NestedSearch.Proofs.Corpus.Existence
import NestedSearch.Proofs.Corpus.Integers
import NestedSearch.Proofs.Corpus.Lacking
import NestedSearch.Proofs.Corpus.Leaf
import NestedSearch.Proofs.Corpus.Nearest
import NestedSearch.Proofs.Corpus.Neighbours
import NestedSearch.Proofs.Corpus.Noninterference
import NestedSearch.Proofs.Corpus.Patterns
import NestedSearch.Proofs.Corpus.QueryString
import NestedSearch.Proofs.Corpus.Search
import NestedSearch.Proofs.Corpus.Transparency
import NestedSearch.Proofs.Corpus.Vectors
import NestedSearch.Proofs.Difference
import NestedSearch.Proofs.Dotted
import NestedSearch.Proofs.Enlargement.Compile
import NestedSearch.Proofs.Enlargement.Scope
import NestedSearch.Proofs.FieldPath
import NestedSearch.Proofs.Fingerprint
import NestedSearch.Proofs.Inlining
import NestedSearch.Proofs.Json.Decode
import NestedSearch.Proofs.Json.Text
import NestedSearch.Proofs.Json.Token
import NestedSearch.Proofs.Lookup
import NestedSearch.Proofs.Obstacle
import NestedSearch.Proofs.Outcome
import NestedSearch.Proofs.Pairwise
import NestedSearch.Proofs.Placement.Conflict
import NestedSearch.Proofs.Placement.Containment
import NestedSearch.Proofs.Placement.Derivation
import NestedSearch.Proofs.Placement.Erasure
import NestedSearch.Proofs.Placement.Explicit
import NestedSearch.Proofs.Placement.Failure
import NestedSearch.Proofs.Placement.Fields
import NestedSearch.Proofs.Placement.Limits
import NestedSearch.Proofs.Placement.Locality
import NestedSearch.Proofs.Placement.Occurrence
import NestedSearch.Proofs.Placement.Reach
import NestedSearch.Proofs.Placement.Scoping
import NestedSearch.Proofs.Placement.Steps
import NestedSearch.Proofs.Placement.Unfolding
import NestedSearch.Proofs.Placement.WellFormed
import NestedSearch.Proofs.Polygon
import NestedSearch.Proofs.Predicate.Building
import NestedSearch.Proofs.Predicate.Codec
import NestedSearch.Proofs.Regex.Classes
import NestedSearch.Proofs.Regex.Extension
import NestedSearch.Proofs.Regex.Globbing
import NestedSearch.Proofs.Regex.Whole
import NestedSearch.Proofs.Reports
import NestedSearch.Proofs.Residual
import NestedSearch.Proofs.Resolution
import NestedSearch.Proofs.Restriction.Compile
import NestedSearch.Proofs.Restriction.Placement
import NestedSearch.Proofs.Restriction.Scope
import NestedSearch.Proofs.Restriction.Search
import NestedSearch.Proofs.Schema.Codec
import NestedSearch.Proofs.Schema.Field
import NestedSearch.Proofs.Schema.Flat
import NestedSearch.Proofs.Schema.Unambiguity
import NestedSearch.Proofs.Schema.Validity
import NestedSearch.Proofs.Schema.Walk
import NestedSearch.Proofs.Scope
import NestedSearch.Proofs.Text.EditDistance
import NestedSearch.Proofs.Text.Phrase
import NestedSearch.Proofs.Text.Splitting
import NestedSearch.Regex.Basic
import NestedSearch.Regex.Meaning
import NestedSearch.Regex.Parser
import NestedSearch.Regex.Pattern
import NestedSearch.Regex.Property
import NestedSearch.Schema.Basic
import NestedSearch.Schema.Codec
import NestedSearch.Schema.Error
import NestedSearch.Schema.Field
import NestedSearch.Schema.Resolution
import NestedSearch.Schema.Usage
import NestedSearch.Scope
import NestedSearch.Spatial
import NestedSearch.Text
import NestedSearch.Unicode.Age
import NestedSearch.Unicode.Case
import NestedSearch.Unicode.Category
import NestedSearch.Unicode.Property
import NestedSearch.Unicode.Script
import NestedSearch.Unicode.Segmentation
