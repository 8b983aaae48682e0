import TreeTemplate.Decimal.Numeral
import TreeTemplate.Engine.Describe
import TreeTemplate.Error.Report
import TreeTemplate.Helper.Stock
import TreeTemplate.Markup
import TreeTemplate.Node.Equality
import TreeTemplate.Proofs.Node.Parts
import TreeTemplate.Proofs.Outcome
import TreeTemplate.Proofs.Form.Decoding
import TreeTemplate.Proofs.Node.WellFormed
import TreeTemplate.Proofs.Form.RoundTrip
import TreeTemplate.Proofs.Expansion.Step
import TreeTemplate.Proofs.Expansion.Normal
import TreeTemplate.Proofs.Name
import TreeTemplate.Proofs.Path.Characters
import TreeTemplate.Proofs.Placeholders.Token
import TreeTemplate.Proofs.Helper.Builtin
import TreeTemplate.Proofs.Node.Flattened
import TreeTemplate.Proofs.Placeholders.Legible
import TreeTemplate.Proofs.Expansion.Flattened
import TreeTemplate.Proofs.Expansion.Alike
import TreeTemplate.Proofs.Markup.Text
import TreeTemplate.Proofs.Markup.Delimiters
import TreeTemplate.Proofs.Node.Filled
import TreeTemplate.Proofs.Expansion.Outline
import TreeTemplate.Proofs.Node.Place
import TreeTemplate.Proofs.Expansion.Failure
import TreeTemplate.Proofs.Form.Built
import TreeTemplate.Proofs.Expansion.Trace
import TreeTemplate.Proofs.Expansion.Depth
import TreeTemplate.Proofs.Markup.Unescape
import TreeTemplate.Proofs.Value.Plain
import TreeTemplate.Proofs.Markup.Content
import TreeTemplate.Proofs.Markup.Scanner
import TreeTemplate.Proofs.Markup.Reading
import TreeTemplate.Proofs.Markup.References
import TreeTemplate.Proofs.Markup.Pieces
import TreeTemplate.Proofs.Expansion.Sequence
import TreeTemplate.Proofs.Markup.Stream
import TreeTemplate.Proofs.Form.Grammar
import TreeTemplate.Proofs.Form.Normalization
import TreeTemplate.Proofs.Expansion.Limit
import TreeTemplate.Proofs.Expansion.Calls
import TreeTemplate.Proofs.Expansion.Obtained
import TreeTemplate.Proofs.Placeholders.Scanner
import TreeTemplate.Proofs.Placeholders.Reading
import TreeTemplate.Proofs.Expansion.Returned
import TreeTemplate.Proofs.Path.Resolve
import TreeTemplate.Proofs.Markup.Quotes
import TreeTemplate.Proofs.Serial
import TreeTemplate.Proofs.Engine.Registered
import TreeTemplate.Proofs.Expansion.Complement
import TreeTemplate.Proofs.Expansion.TopLevel
import TreeTemplate.Proofs.Path.Append
import TreeTemplate.Proofs.Value.Members
import TreeTemplate.Proofs.Expansion.Each
import TreeTemplate.Proofs.Node.Inlined
import TreeTemplate.Proofs.Expansion.Inlined
import TreeTemplate.Proofs.Path.Grammar
import TreeTemplate.Proofs.Expansion.Prefixed
import TreeTemplate.Proofs.Markup.Leaves
import TreeTemplate.Proofs.Markup.Flattened
import TreeTemplate.Proofs.Entries
import TreeTemplate.Proofs.Serial.Direct
import TreeTemplate.Proofs.Serial.Calls
import TreeTemplate.Proofs.Serial.Taken
import TreeTemplate.Proofs.Form.Shape
import TreeTemplate.Proofs.Node.Builder
