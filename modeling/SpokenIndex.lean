import SpokenIndex.Artifact
import SpokenIndex.Collection.OrderedMap
import SpokenIndex.Collection.Sorted
import SpokenIndex.Command.Option
import SpokenIndex.Command.Page
import SpokenIndex.Command.Program
import SpokenIndex.Command.Scene
import SpokenIndex.Command.Session
import SpokenIndex.Disk.Basic
import SpokenIndex.Disk.Node
import SpokenIndex.Disk.Walk
import SpokenIndex.Display.Box
import SpokenIndex.Display.Cells
import SpokenIndex.Display.Emoji
import SpokenIndex.Display.EmojiNames
import SpokenIndex.Display.Lines
import SpokenIndex.Display.Markup
import SpokenIndex.Display.Style
import SpokenIndex.Document.Json
import SpokenIndex.Document.Moment
import SpokenIndex.Document.Toml.Reader
import SpokenIndex.Document.Toml.Scalar
import SpokenIndex.Document.Toml.Table
import SpokenIndex.Document.Value
import SpokenIndex.Document.Yaml.Node
import SpokenIndex.Document.Yaml.Plain
import SpokenIndex.Document.Yaml.Reader
import SpokenIndex.Document.Yaml.Scalar
import SpokenIndex.Document.Yaml.Scanner
import SpokenIndex.Document.Yaml.Tokens
import SpokenIndex.Glob.Basic
import SpokenIndex.Glob.Brace
import SpokenIndex.Glob.Wildcard
import SpokenIndex.Index.Journal
import SpokenIndex.Index.Mappings
import SpokenIndex.Index.Store
import SpokenIndex.Index.Surroundings
import SpokenIndex.Index.Tracking
import SpokenIndex.Listing
import SpokenIndex.Main
import SpokenIndex.Matching.Candidate
import SpokenIndex.Matching.Phrase
import SpokenIndex.Matching.Score
import SpokenIndex.Matching.Transcript
import SpokenIndex.Matching.Word
import SpokenIndex.Number.Binary64
import SpokenIndex.Number.Digits
import SpokenIndex.Number.Shortest
import SpokenIndex.Path
import SpokenIndex.Pattern.Escape
import SpokenIndex.Pattern.Expression
import SpokenIndex.Pattern.Flag
import SpokenIndex.Pattern.Match
import SpokenIndex.Pattern.Problem
import SpokenIndex.Pattern.Reader
import SpokenIndex.Pattern.Sign
import SpokenIndex.Script.Binding
import SpokenIndex.Script.Expression
import SpokenIndex.Script.Function
import SpokenIndex.Script.Grammar
import SpokenIndex.Script.Markup
import SpokenIndex.Script.Module
import SpokenIndex.Script.Program
import SpokenIndex.Script.Statement
import SpokenIndex.Script.Token
import SpokenIndex.Script.Tree
import SpokenIndex.Script.TypeNotation
import SpokenIndex.Service
import SpokenIndex.Settings.Basic
import SpokenIndex.Settings.Environment
import SpokenIndex.Settings.File
import SpokenIndex.Settings.Numeric
import SpokenIndex.Settings.Problem
import SpokenIndex.Settings.Validate
import SpokenIndex.Source.Extraction
import SpokenIndex.Source.Extractor
import SpokenIndex.Source.Language
import SpokenIndex.Source.Reading
import SpokenIndex.Source.Utf8
import SpokenIndex.Source.Vue
import SpokenIndex.Text.Basic
import SpokenIndex.Text.Blank
import SpokenIndex.Text.CaseFold
import SpokenIndex.Text.Closeness
import SpokenIndex.Text.CodeRange
import SpokenIndex.Text.Lowercase
import SpokenIndex.Text.Quoted
import SpokenIndex.Text.Reader
import SpokenIndex.Text.Uppercase
import SpokenIndex.Text.WordChar
import SpokenIndex.Proofs.Lookup
import SpokenIndex.Proofs.Walk
import SpokenIndex.Proofs.Tracking
import SpokenIndex.Proofs.Entries
import SpokenIndex.Proofs.Files
import SpokenIndex.Proofs.Handlers
import SpokenIndex.Proofs.Initialization
import SpokenIndex.Proofs.Watched
import SpokenIndex.Proofs.Freshness
import SpokenIndex.Proofs.Ownership
import SpokenIndex.Proofs.Completeness
import SpokenIndex.Proofs.Convergence
import SpokenIndex.Proofs.Selection
import SpokenIndex.Proofs.Resolution
import SpokenIndex.Proofs.Indifference
import SpokenIndex.Proofs.History
import SpokenIndex.Proofs.Deletion
import SpokenIndex.Proofs.Ancestors
import SpokenIndex.Proofs.Representation
import SpokenIndex.Proofs.Spans
import SpokenIndex.Proofs.LastWrites
import SpokenIndex.Proofs.Folders
import SpokenIndex.Proofs.Bulk
import SpokenIndex.Proofs.Lifecycle
import SpokenIndex.Proofs.Links
import SpokenIndex.Proofs.Service
import SpokenIndex.Proofs.Redelivery
import SpokenIndex.Proofs.Removal
import SpokenIndex.Proofs.Shadowing
import SpokenIndex.Proofs.Filling
import SpokenIndex.Proofs.Overtaking
import SpokenIndex.Proofs.Confinement
import SpokenIndex.Proofs.Descent
import SpokenIndex.Proofs.Listing
import SpokenIndex.Proofs.Moves
import SpokenIndex.Proofs.Rounding
import SpokenIndex.Proofs.Kept
import SpokenIndex.Proofs.Greedy
import SpokenIndex.Proofs.Annotation
import SpokenIndex.Proofs.Blocks
import SpokenIndex.Proofs.Rebuilding
import SpokenIndex.Proofs.Fields
import SpokenIndex.Proofs.Scoring
import SpokenIndex.Proofs.Braces
import SpokenIndex.Proofs.BraceMeaning
import SpokenIndex.Proofs.LeadingFolders
import SpokenIndex.Proofs.Gates
import SpokenIndex.Proofs.Climb
import SpokenIndex.Proofs.Extensions
import SpokenIndex.Proofs.Lowering
import SpokenIndex.Proofs.Silent
import SpokenIndex.Proofs.Marks
import SpokenIndex.Proofs.Elements
import SpokenIndex.Proofs.Spelling
import SpokenIndex.Proofs.Attributes
import SpokenIndex.Proofs.Settings
import SpokenIndex.Proofs.WayDown
import SpokenIndex.Proofs.Preorder
import SpokenIndex.Proofs.Passes
import SpokenIndex.Proofs.Verbatim
import SpokenIndex.Proofs.Lines
import SpokenIndex.Proofs.FileList
