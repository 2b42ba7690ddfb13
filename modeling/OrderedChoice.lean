import OrderedChoice.CharSet
import OrderedChoice.Cli.Args
import OrderedChoice.Cli.Run
import OrderedChoice.Diagnostic
import OrderedChoice.Error
import OrderedChoice.Grammar.Analysis
import OrderedChoice.Grammar.Basic
import OrderedChoice.Grammar.Comment
import OrderedChoice.Grammar.Document
import OrderedChoice.Grammar.Expansion
import OrderedChoice.Grammar.Report
import OrderedChoice.Grammar.Rules
import OrderedChoice.Grammar.Table
import OrderedChoice.Json.Escape
import OrderedChoice.Json.Reader
import OrderedChoice.Json.Value
import OrderedChoice.Main
import OrderedChoice.Parse
import OrderedChoice.Parse.Engine
import OrderedChoice.Parse.Place
import OrderedChoice.Parse.Skip
import OrderedChoice.Pattern
import OrderedChoice.Pattern.Ast
import OrderedChoice.Pattern.Engine
import OrderedChoice.Pattern.Match
import OrderedChoice.Pattern.Program
import OrderedChoice.Pattern.Reader
import OrderedChoice.Pattern.Reader.Basic
import OrderedChoice.Pattern.Reader.Class
import OrderedChoice.Pattern.Reader.Escape
import OrderedChoice.Pattern.Reader.Group
import OrderedChoice.Pattern.Regex
import OrderedChoice.Pattern.Resolve
import OrderedChoice.Pattern.Shape
import OrderedChoice.Pattern.Size
import OrderedChoice.Pattern.Size.Class
import OrderedChoice.Pattern.Size.Sequence
import OrderedChoice.Pattern.Size.Slots
import OrderedChoice.Pattern.Size.Tally
import OrderedChoice.Pattern.Size.Words
import OrderedChoice.Proofs.Bound
import OrderedChoice.Proofs.ByName
import OrderedChoice.Proofs.Calls
import OrderedChoice.Proofs.Carry
import OrderedChoice.Proofs.Check
import OrderedChoice.Proofs.CommandVerdict
import OrderedChoice.Proofs.Construction
import OrderedChoice.Proofs.DeadExpansions
import OrderedChoice.Proofs.Decoding
import OrderedChoice.Proofs.Derivation
import OrderedChoice.Proofs.Diagnosis
import OrderedChoice.Proofs.Entries
import OrderedChoice.Proofs.ExclusiveExpansions
import OrderedChoice.Proofs.FailurePoint
import OrderedChoice.Proofs.FaultMeaning
import OrderedChoice.Proofs.FaultQueries
import OrderedChoice.Proofs.Findings
import OrderedChoice.Proofs.Furthest
import OrderedChoice.Proofs.Gaps
import OrderedChoice.Proofs.Grouping
import OrderedChoice.Proofs.Homomorphism
import OrderedChoice.Proofs.InRange
import OrderedChoice.Proofs.Interpreter
import OrderedChoice.Proofs.LeadingText
import OrderedChoice.Proofs.Lines
import OrderedChoice.Proofs.Loading
import OrderedChoice.Proofs.Offsets
import OrderedChoice.Proofs.Place
import OrderedChoice.Proofs.PrettyForm
import OrderedChoice.Proofs.Readability
import OrderedChoice.Proofs.Recognition
import OrderedChoice.Proofs.Registry
import OrderedChoice.Proofs.Replacement
import OrderedChoice.Proofs.Run
import OrderedChoice.Proofs.SelfProduction
import OrderedChoice.Proofs.Skip
import OrderedChoice.Proofs.Spans
import OrderedChoice.Proofs.Subtrees
import OrderedChoice.Proofs.SymbolTable
import OrderedChoice.Proofs.Termination
import OrderedChoice.Proofs.Tiling
import OrderedChoice.Proofs.Walk
import OrderedChoice.Text.Blank
import OrderedChoice.Text.Numeral
import OrderedChoice.Text.Quoted
import OrderedChoice.Text.Styled
import OrderedChoice.Text.Utf8
import OrderedChoice.Tree.Basic
import OrderedChoice.Tree.Cursor
import OrderedChoice.Tree.Render
import OrderedChoice.Unicode.Age
import OrderedChoice.Unicode.Binary
import OrderedChoice.Unicode.CaseFold
import OrderedChoice.Unicode.Category
import OrderedChoice.Unicode.Current
import OrderedChoice.Unicode.Folding
import OrderedChoice.Unicode.Packed
import OrderedChoice.Unicode.Property
import OrderedChoice.Unicode.Script
import OrderedChoice.Unicode.ScriptExtension
import OrderedChoice.Unicode.Segmentation
