import SearchCriteria.Calendar
import SearchCriteria.Clause.Basic
import SearchCriteria.Clause.Membership
import SearchCriteria.Clause.Presence
import SearchCriteria.Clause.Range
import SearchCriteria.Clause.Relationship
import SearchCriteria.Clause.Text
import SearchCriteria.Compile.Basic
import SearchCriteria.Compile.Filter
import SearchCriteria.Compile.Fragment
import SearchCriteria.Connective
import SearchCriteria.Criteria.Basic
import SearchCriteria.Criteria.Building
import SearchCriteria.Criteria.Comparison
import SearchCriteria.Criteria.Operand
import SearchCriteria.Criteria.Renaming
import SearchCriteria.Fault
import SearchCriteria.Field
import SearchCriteria.Geo.Distance
import SearchCriteria.Geo.Geohash
import SearchCriteria.Geo.Geometry
import SearchCriteria.Geo.Point
import SearchCriteria.Geo.PointText
import SearchCriteria.Geo.Relation
import SearchCriteria.GeoFilter
import SearchCriteria.Json.Basic
import SearchCriteria.Json.Reading
import SearchCriteria.Json.Record
import SearchCriteria.Json.Source
import SearchCriteria.Json.Token
import SearchCriteria.Json.Writing
import SearchCriteria.Named
import SearchCriteria.Number.Double
import SearchCriteria.Number.Layout
import SearchCriteria.Number.Reading
import SearchCriteria.Number.Shortest
import SearchCriteria.OperandKind
import SearchCriteria.Operator
import SearchCriteria.Proofs.Acceptance
import SearchCriteria.Proofs.Agreement
import SearchCriteria.Proofs.Appending
import SearchCriteria.Proofs.Arrangement
import SearchCriteria.Proofs.Attachment
import SearchCriteria.Proofs.Base64
import SearchCriteria.Proofs.Boosts
import SearchCriteria.Proofs.CellCentres
import SearchCriteria.Proofs.Compilation
import SearchCriteria.Proofs.Construction
import SearchCriteria.Proofs.Contexts
import SearchCriteria.Proofs.Coordinates
import SearchCriteria.Proofs.Corners
import SearchCriteria.Proofs.Depth
import SearchCriteria.Proofs.Embedding
import SearchCriteria.Proofs.Envelopes
import SearchCriteria.Proofs.Essence
import SearchCriteria.Proofs.Exactness
import SearchCriteria.Proofs.Exclusion
import SearchCriteria.Proofs.Extension
import SearchCriteria.Proofs.Faithfulness
import SearchCriteria.Proofs.FilterCompilation
import SearchCriteria.Proofs.FilterVerdict
import SearchCriteria.Proofs.Geohash
import SearchCriteria.Proofs.Grouping
import SearchCriteria.Proofs.Groups
import SearchCriteria.Proofs.Halves
import SearchCriteria.Proofs.Joining
import SearchCriteria.Proofs.JsonPath
import SearchCriteria.Proofs.Legibility
import SearchCriteria.Proofs.Locations
import SearchCriteria.Proofs.Matching
import SearchCriteria.Proofs.Nesting
import SearchCriteria.Proofs.Nulls
import SearchCriteria.Proofs.Numbers
import SearchCriteria.Proofs.Numerals
import SearchCriteria.Proofs.Occurrence
import SearchCriteria.Proofs.Outlines
import SearchCriteria.Proofs.Parts
import SearchCriteria.Proofs.Pieces
import SearchCriteria.Proofs.Provenance
import SearchCriteria.Proofs.QuotedTerms
import SearchCriteria.Proofs.Refusal
import SearchCriteria.Proofs.Relocation
import SearchCriteria.Proofs.Renaming
import SearchCriteria.Proofs.Routing
import SearchCriteria.Proofs.Scopes
import SearchCriteria.Proofs.SearchText
import SearchCriteria.Proofs.Sides
import SearchCriteria.Proofs.Simulation
import SearchCriteria.Proofs.Spelling
import SearchCriteria.Proofs.Steps
import SearchCriteria.Proofs.Substance
import SearchCriteria.Proofs.Suitability
import SearchCriteria.Proofs.Unwrapping
import SearchCriteria.Proofs.Verdict
import SearchCriteria.QueryKind
import SearchCriteria.QueryString
import SearchCriteria.QueryTree.Basic
import SearchCriteria.QueryTree.GeoPredicate
import SearchCriteria.QueryTree.Json
import SearchCriteria.QueryTree.Leaf
import SearchCriteria.Related
import SearchCriteria.Settings
import SearchCriteria.Stored.Basic
import SearchCriteria.Stored.Geometry
import SearchCriteria.Table
import SearchCriteria.Text.Base64
import SearchCriteria.Text.Blank
import SearchCriteria.Text.DecimalDigit
import SearchCriteria.Text.LetterCase
