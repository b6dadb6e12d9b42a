import Interpolation.CommandLine
import Interpolation.Condition
import Interpolation.Error
import Interpolation.Evaluation
import Interpolation.Glob
import Interpolation.Guard
import Interpolation.Host
import Interpolation.Json
import Interpolation.Json.Reader
import Interpolation.Logical
import Interpolation.Main
import Interpolation.Operator
import Interpolation.Operator.Basic
import Interpolation.Operator.Delete
import Interpolation.Operator.Replace
import Interpolation.Operator.Transliterate
import Interpolation.Pattern
import Interpolation.Pattern.CharClass
import Interpolation.Pattern.Preferred
import Interpolation.Pattern.Preferred.Lemmas
import Interpolation.Pattern.Property.Names
import Interpolation.Pattern.Reader
import Interpolation.Pattern.Reader.Basic
import Interpolation.Pattern.Reader.Class
import Interpolation.Pattern.Search
import Interpolation.Pattern.Template
import Interpolation.Prefixed
import Interpolation.Prefixed.Strategy
import Interpolation.Proofs.Evaluation.Law
import Interpolation.Proofs.Evaluation.Rules
import Interpolation.Proofs.Evaluation.Spec
import Interpolation.Proofs.Glob.Greed
import Interpolation.Proofs.Glob.Pieces
import Interpolation.Proofs.Glob.Wildcards
import Interpolation.Proofs.Guard.Custody
import Interpolation.Proofs.Guard.Nesting
import Interpolation.Proofs.Json.Rendering
import Interpolation.Proofs.Logical.Expression
import Interpolation.Proofs.Logical.Folding
import Interpolation.Proofs.Logical.Grouping
import Interpolation.Proofs.Operator.Beginnings
import Interpolation.Proofs.Operator.Deleting
import Interpolation.Proofs.Operator.FirstSign
import Interpolation.Proofs.Operator.Grammar
import Interpolation.Proofs.Operator.Naming
import Interpolation.Proofs.Operator.Reader
import Interpolation.Proofs.Operator.Replacing
import Interpolation.Proofs.Operator.Slashes
import Interpolation.Proofs.Operator.Slicing
import Interpolation.Proofs.Operator.Transliterating
import Interpolation.Proofs.Pattern.Brackets
import Interpolation.Proofs.Pattern.Fragments
import Interpolation.Proofs.Pattern.Greed
import Interpolation.Proofs.Pattern.Groups
import Interpolation.Proofs.Pattern.Language
import Interpolation.Proofs.Pattern.Literals
import Interpolation.Proofs.Pattern.Marks
import Interpolation.Proofs.Pattern.Narrowing
import Interpolation.Proofs.Pattern.Preference
import Interpolation.Proofs.Pattern.Reading
import Interpolation.Proofs.Pattern.Recognition
import Interpolation.Proofs.Pattern.Remainders
import Interpolation.Proofs.Pattern.Seams
import Interpolation.Proofs.Pattern.Signs
import Interpolation.Proofs.Pattern.SmallParts
import Interpolation.Proofs.Pattern.Splitting
import Interpolation.Proofs.Reference.Agreement
import Interpolation.Proofs.Reference.Finding
import Interpolation.Proofs.Reference.Forward
import Interpolation.Proofs.Reference.Grammar
import Interpolation.Proofs.Reference.Scanning
import Interpolation.Proofs.Reference.Template
import Interpolation.Proofs.Reference.Unclosed
import Interpolation.Proofs.Session.Answering
import Interpolation.Proofs.Session.Balance
import Interpolation.Proofs.Session.Declining
import Interpolation.Proofs.Session.Defaults
import Interpolation.Proofs.Session.Depth
import Interpolation.Proofs.Session.Doubling
import Interpolation.Proofs.Session.Fetching
import Interpolation.Proofs.Session.Footprint
import Interpolation.Proofs.Session.Growth
import Interpolation.Proofs.Session.Law
import Interpolation.Proofs.Session.Moments
import Interpolation.Proofs.Session.Rings
import Interpolation.Proofs.Session.Rules
import Interpolation.Proofs.Session.SelfReference
import Interpolation.Proofs.Session.Setness
import Interpolation.Proofs.Session.Settling
import Interpolation.Proofs.Session.Sharing
import Interpolation.Proofs.Session.Splicing
import Interpolation.Proofs.Session.Substitution
import Interpolation.Proofs.Session.Termination
import Interpolation.Proofs.Session.Twins
import Interpolation.Proofs.Session.Verbatim
import Interpolation.Proofs.Settings.Writing
import Interpolation.Proofs.Strategy.Attributes
import Interpolation.Proofs.Strategy.Conditions
import Interpolation.Proofs.Strategy.Imbalance
import Interpolation.Proofs.Strategy.PlainNames
import Interpolation.Proofs.Strategy.Plan
import Interpolation.Proofs.Strategy.Prefixes
import Interpolation.Proofs.Strategy.Reconfiguring
import Interpolation.Proofs.Text.Cutting
import Interpolation.Proofs.Text.Escaping
import Interpolation.Reference
import Interpolation.Registry
import Interpolation.Session
import Interpolation.Settings
import Interpolation.Store
import Interpolation.Strategy
import Interpolation.Text
import Interpolation.Text.Escape
import Interpolation.Text.Position
import Interpolation.Text.Quoted
import Interpolation.TextMap
import Interpolation.TokenPattern
import Interpolation.TokenPattern.Compiled
import Interpolation.Unicode.Case
import Interpolation.Unicode.Category
import Interpolation.Unicode.Properties
import Interpolation.Unicode.Ranges
import Interpolation.Unicode.Script
import Interpolation.Url
import Interpolation.Url.Host
import Interpolation.Url.Percent
import Interpolation.Value
