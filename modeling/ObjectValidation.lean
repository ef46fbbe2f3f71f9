import ObjectValidation.Bundle.Embedded
import ObjectValidation.Bundle.Resolution
import ObjectValidation.Bundle.Resolver
import ObjectValidation.Bundle.Source
import ObjectValidation.Calendar.Date
import ObjectValidation.Calendar.Pattern
import ObjectValidation.Calendar.Time
import ObjectValidation.Check
import ObjectValidation.Check.Basic
import ObjectValidation.Check.Equality
import ObjectValidation.Check.Names
import ObjectValidation.Check.Order
import ObjectValidation.Check.Pattern
import ObjectValidation.Check.Size
import ObjectValidation.Check.Text
import ObjectValidation.Collection.OrderedSet
import ObjectValidation.Config
import ObjectValidation.Constraint
import ObjectValidation.Error
import ObjectValidation.Files
import ObjectValidation.Format.Formatter
import ObjectValidation.Format.Number
import ObjectValidation.Format.Plain
import ObjectValidation.Format.Registry
import ObjectValidation.Format.Temporal
import ObjectValidation.Json.Basic
import ObjectValidation.Json.Reader
import ObjectValidation.Locale.Basic
import ObjectValidation.Locale.Conventions
import ObjectValidation.Localizer
import ObjectValidation.Message
import ObjectValidation.Number.Decimal
import ObjectValidation.Number.Float
import ObjectValidation.Number.Numeral
import ObjectValidation.Number.Shortest
import ObjectValidation.Path
import ObjectValidation.Proofs.Bundle.Asked
import ObjectValidation.Proofs.Bundle.Embedded
import ObjectValidation.Proofs.Bundle.Failure
import ObjectValidation.Proofs.Bundle.FirstStep
import ObjectValidation.Proofs.Bundle.Growth
import ObjectValidation.Proofs.Bundle.History
import ObjectValidation.Proofs.Bundle.Keys
import ObjectValidation.Proofs.Bundle.Reading
import ObjectValidation.Proofs.Bundle.Snapshot
import ObjectValidation.Proofs.Bundle.Transcript
import ObjectValidation.Proofs.Calendar.Writing
import ObjectValidation.Proofs.Check.Comparison
import ObjectValidation.Proofs.Check.Families
import ObjectValidation.Proofs.Collection.FirstOccurrence
import ObjectValidation.Proofs.Constraint.Parameters
import ObjectValidation.Proofs.Format.Asking
import ObjectValidation.Proofs.Format.Calls
import ObjectValidation.Proofs.Format.Closest
import ObjectValidation.Proofs.Format.NameLookup
import ObjectValidation.Proofs.Format.Temporal
import ObjectValidation.Proofs.Format.Unaffected
import ObjectValidation.Proofs.Format.WholeNumber
import ObjectValidation.Proofs.Format.Writing
import ObjectValidation.Proofs.Locale.FileName
import ObjectValidation.Proofs.Locale.Spelling
import ObjectValidation.Proofs.Locale.Tag
import ObjectValidation.Proofs.Localizer.Calls
import ObjectValidation.Proofs.Localizer.Catalogue
import ObjectValidation.Proofs.Localizer.FoundFile
import ObjectValidation.Proofs.Localizer.Several
import ObjectValidation.Proofs.Location
import ObjectValidation.Proofs.Path
import ObjectValidation.Proofs.Regex.Layout
import ObjectValidation.Proofs.Regex.Meaning
import ObjectValidation.Proofs.Regex.Reading.Class
import ObjectValidation.Proofs.Regex.Reading.Group
import ObjectValidation.Proofs.Regex.Regroup
import ObjectValidation.Proofs.Regex.Search
import ObjectValidation.Proofs.Regex.WholeText
import ObjectValidation.Proofs.Returns
import ObjectValidation.Proofs.Template.Render
import ObjectValidation.Proofs.Types.BreadthFirst
import ObjectValidation.Proofs.Types.NameLookup
import ObjectValidation.Proofs.Validation.Abort
import ObjectValidation.Proofs.Validation.Aborted
import ObjectValidation.Proofs.Validation.Absent
import ObjectValidation.Proofs.Validation.Agreement
import ObjectValidation.Proofs.Validation.Elements
import ObjectValidation.Proofs.Validation.Event
import ObjectValidation.Proofs.Validation.Flat
import ObjectValidation.Proofs.Validation.Located
import ObjectValidation.Proofs.Value.NormalForm
import ObjectValidation.Proofs.Value.Tokens
import ObjectValidation.Proofs.Violation.Hashing
import ObjectValidation.Proofs.Violation.Merging
import ObjectValidation.Proofs.Violation.Set
import ObjectValidation.Proofs.Violation.Updates
import ObjectValidation.Regex.Basic
import ObjectValidation.Regex.CharSet
import ObjectValidation.Regex.Class
import ObjectValidation.Regex.Match
import ObjectValidation.Regex.Parser
import ObjectValidation.Regex.Pattern
import ObjectValidation.Regex.Program
import ObjectValidation.Table
import ObjectValidation.Template
import ObjectValidation.Text.Blank
import ObjectValidation.Text.CaseTable
import ObjectValidation.Text.Decode
import ObjectValidation.Text.FoldTable
import ObjectValidation.Text.Lowercase
import ObjectValidation.Text.Quoted
import ObjectValidation.Text.QuotedTable
import ObjectValidation.Text.Ranges
import ObjectValidation.Text.WordTable
import ObjectValidation.Types.Graph
import ObjectValidation.Validation.Abortable
import ObjectValidation.Validation.Pass
import ObjectValidation.Validation.Property
import ObjectValidation.Value.Basic
import ObjectValidation.Value.Conversion
import ObjectValidation.Value.Equality
import ObjectValidation.Value.Json
import ObjectValidation.Violation.Basic
import ObjectValidation.Violation.Set
