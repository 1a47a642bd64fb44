import Rsx.Cache
import Rsx.Cache.Entry
import Rsx.Compile
import Rsx.Diagnostic
import Rsx.Event
import Rsx.FileFilter
import Rsx.FileTree
import Rsx.Flaw
import Rsx.Grammar
import Rsx.Grammar.Binding
import Rsx.Grammar.Classes
import Rsx.Grammar.Elements
import Rsx.Grammar.Expressions
import Rsx.Grammar.Functions
import Rsx.Grammar.Modifiers
import Rsx.Grammar.Modules
import Rsx.Grammar.Parser
import Rsx.Grammar.Statements
import Rsx.Grammar.Types
import Rsx.HostImports
import Rsx.Instance
import Rsx.Json.Decoder
import Rsx.Json.Fault
import Rsx.Number.Binary64
import Rsx.Number.Spelling
import Rsx.Options
import Rsx.Pattern
import Rsx.Pattern.Age
import Rsx.Pattern.Binary
import Rsx.Pattern.CharSet
import Rsx.Pattern.Fault
import Rsx.Pattern.Property
import Rsx.Pattern.Reader
import Rsx.Pattern.Regex
import Rsx.Pattern.Script
import Rsx.Pattern.Segment
import Rsx.Pattern.Tree
import Rsx.Pattern.Weight
import Rsx.Position
import Rsx.Primitive
import Rsx.Printer
import Rsx.Printer.Elements
import Rsx.Printer.Expressions
import Rsx.Printer.Literals
import Rsx.Printer.Output
import Rsx.Printer.Statements
import Rsx.Printer.Types
import Rsx.Problem
import Rsx.Project
import Rsx.Promotion
import Rsx.Proofs.BannedCalls
import Rsx.Proofs.Binders
import Rsx.Proofs.Bytes
import Rsx.Proofs.Capture
import Rsx.Proofs.Declared
import Rsx.Proofs.DefaultExport
import Rsx.Proofs.Discovery
import Rsx.Proofs.EarlyValues
import Rsx.Proofs.EntryReading
import Rsx.Proofs.Erasing
import Rsx.Proofs.EvaluationOrder
import Rsx.Proofs.Files
import Rsx.Proofs.Fingerprint
import Rsx.Proofs.Generated
import Rsx.Proofs.Guarding
import Rsx.Proofs.Homes
import Rsx.Proofs.HostAccess
import Rsx.Proofs.HostCalls
import Rsx.Proofs.HostNames
import Rsx.Proofs.Hygiene
import Rsx.Proofs.ImportedNames
import Rsx.Proofs.InPlace
import Rsx.Proofs.Independence
import Rsx.Proofs.JsonReading
import Rsx.Proofs.LastWrites
import Rsx.Proofs.Layout
import Rsx.Proofs.Lines
import Rsx.Proofs.Paths
import Rsx.Proofs.Places
import Rsx.Proofs.Promoted
import Rsx.Proofs.PromotedNames
import Rsx.Proofs.PropsMentions
import Rsx.Proofs.PropsRoots
import Rsx.Proofs.PropsWrites
import Rsx.Proofs.Rebuilt
import Rsx.Proofs.RecordShape
import Rsx.Proofs.Refusals
import Rsx.Proofs.Replacing
import Rsx.Proofs.Returns
import Rsx.Proofs.Reversal
import Rsx.Proofs.Scanning
import Rsx.Proofs.ScopeNames
import Rsx.Proofs.ScopeStack
import Rsx.Proofs.Scoping
import Rsx.Proofs.Seeding
import Rsx.Proofs.Shadowing
import Rsx.Proofs.ShorthandWrites
import Rsx.Proofs.SingleHome
import Rsx.Proofs.Sites
import Rsx.Proofs.Steps
import Rsx.Proofs.Template
import Rsx.Proofs.Transparency
import Rsx.Props
import Rsx.Record
import Rsx.Scope
import Rsx.ScopeStack
import Rsx.Seeding
import Rsx.Sha256
import Rsx.Site
import Rsx.SourceMap
import Rsx.Substitution
import Rsx.Text.CaseFold
import Rsx.Text.Category
import Rsx.Text.Identifier
import Rsx.Text.Letter
import Rsx.Text.Quoted
import Rsx.Text.Ranges
import Rsx.Text.Spelled
import Rsx.Token
import Rsx.Token.Escape
import Rsx.Token.Lexer
import Rsx.Token.Reader
import Rsx.Transform
import Rsx.Tree
import Rsx.Tree.Build
import Rsx.Tree.Walk
import Rsx.Writes
