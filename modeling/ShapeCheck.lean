import ShapeCheck.Main
import ShapeCheck.Instant.Reading
import ShapeCheck.Proofs.Json.Inclusion
import ShapeCheck.Proofs.Pattern.Sticky
import ShapeCheck.Proofs.Pattern.ClassEscapes
import ShapeCheck.Proofs.Schema.ErrorExample
import ShapeCheck.Proofs.Schema.Failures
import ShapeCheck.Proofs.Schema.Rewriting
import ShapeCheck.Proofs.Schema.Unsupported
import ShapeCheck.Proofs.Schema.SelfAcceptance
import ShapeCheck.Proofs.Json.Run
import ShapeCheck.Proofs.Assertion
import ShapeCheck.Proofs.Combinator
import ShapeCheck.Proofs.Json.Order
import ShapeCheck.Proofs.Numeral
import ShapeCheck.Proofs.Binary64.Shortest
import ShapeCheck.Proofs.Binary64.Text
import ShapeCheck.Proofs.Yaml.Key
import ShapeCheck.Proofs.Yaml.Conversion
import ShapeCheck.Proofs.Yaml.Faults
import ShapeCheck.Proofs.DocumentCheck
import ShapeCheck.Proofs.Schema.Copies
import ShapeCheck.Proofs.Instant
import ShapeCheck.Proofs.Value.Text
import ShapeCheck.Proofs.CommandLine
import ShapeCheck.Proofs.Schema.Catching
import ShapeCheck.Proofs.Rule.Length
import ShapeCheck.Proofs.Combinator.Duality
import ShapeCheck.Proofs.Pattern.BracketClasses
import ShapeCheck.Proofs.Instant.Reading
import ShapeCheck.Proofs.Binary64.Printing
import ShapeCheck.Proofs.Schema.Combining
import ShapeCheck.Proofs.Value.Equality
import ShapeCheck.Proofs.Rule.Array
import ShapeCheck.Proofs.Value.Change
import ShapeCheck.Proofs.Schema.Unlisted
import ShapeCheck.Proofs.Rule.Instance
import ShapeCheck.Proofs.Value.Indexing
import ShapeCheck.Proofs.Schema.FailurePath
import ShapeCheck.Proofs.Schema.Allowance
import ShapeCheck.Proofs.Json.Path
import ShapeCheck.Proofs.Pattern.Lexeme
import ShapeCheck.Proofs.Entries.Collecting
import ShapeCheck.Proofs.Yaml.Reading
