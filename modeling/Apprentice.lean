import Apprentice.Action.Answer
import Apprentice.Action.Basic
import Apprentice.Action.Execution
import Apprentice.Action.Outcome
import Apprentice.Agent.Basic
import Apprentice.Agent.Conversation
import Apprentice.Agent.Error
import Apprentice.CommandLine.Arguments
import Apprentice.CommandLine.Run
import Apprentice.CommandLine.Session
import Apprentice.Config.Basic
import Apprentice.Config.File
import Apprentice.Description.Basic
import Apprentice.Description.Synthesis
import Apprentice.Diagnostic
import Apprentice.Disk
import Apprentice.Expr.Basic
import Apprentice.Expr.Error
import Apprentice.Expr.Eval
import Apprentice.Expr.Lexer
import Apprentice.Expr.Parser
import Apprentice.Expr.Predicate
import Apprentice.Expr.Token
import Apprentice.Expr.Typing
import Apprentice.Goal.Basic
import Apprentice.Goal.Plan
import Apprentice.Goal.Planning
import Apprentice.Goal.Store
import Apprentice.Goal.Tick
import Apprentice.Json.Basic
import Apprentice.Json.Parser
import Apprentice.Json.Printer
import Apprentice.Lexicon.Basic
import Apprentice.Lexicon.Curriculum
import Apprentice.Lexicon.Meaning
import Apprentice.Lexicon.Records
import Apprentice.Lexicon.SeedFile
import Apprentice.Lexicon.SeedPack
import Apprentice.Lexicon.Word
import Apprentice.Lexicon.WordType
import Apprentice.Main
import Apprentice.Parsed
import Apprentice.Proofs.Action.Acquire
import Apprentice.Proofs.Action.Found
import Apprentice.Proofs.Action.Guard
import Apprentice.Proofs.Action.InPlace
import Apprentice.Proofs.Action.Misses
import Apprentice.Proofs.Action.Ownership
import Apprentice.Proofs.Action.Replies
import Apprentice.Proofs.Agent.Explained
import Apprentice.Proofs.Agent.Footprint
import Apprentice.Proofs.Agent.LearnableWords
import Apprentice.Proofs.Agent.Ownership
import Apprentice.Proofs.Agent.Resolution
import Apprentice.Proofs.Agent.UnknownWords
import Apprentice.Proofs.Description.Candidate
import Apprentice.Proofs.Description.Contradiction
import Apprentice.Proofs.Description.Reads
import Apprentice.Proofs.Description.Requirements
import Apprentice.Proofs.Description.Solvable
import Apprentice.Proofs.Disk
import Apprentice.Proofs.Except
import Apprentice.Proofs.Expr.Balance
import Apprentice.Proofs.Expr.Blanks
import Apprentice.Proofs.Expr.Completeness
import Apprentice.Proofs.Expr.Derivation
import Apprentice.Proofs.Expr.Descent
import Apprentice.Proofs.Expr.Exact
import Apprentice.Proofs.Expr.Grammar
import Apprentice.Proofs.Expr.Height
import Apprentice.Proofs.Expr.IntegerRange
import Apprentice.Proofs.Expr.Places
import Apprentice.Proofs.Expr.Reads
import Apprentice.Proofs.Expr.Returns
import Apprentice.Proofs.Expr.Simple
import Apprentice.Proofs.Expr.Soundness
import Apprentice.Proofs.Expr.SourceText
import Apprentice.Proofs.Expr.Tallest
import Apprentice.Proofs.Expr.Typing
import Apprentice.Proofs.Goal.Acquisition
import Apprentice.Proofs.Goal.Advance
import Apprentice.Proofs.Goal.AskedOnce
import Apprentice.Proofs.Goal.Asking
import Apprentice.Proofs.Goal.Choice
import Apprentice.Proofs.Goal.Conduct
import Apprentice.Proofs.Goal.Existence
import Apprentice.Proofs.Goal.FreshName
import Apprentice.Proofs.Goal.Inquiry
import Apprentice.Proofs.Goal.Lifecycle
import Apprentice.Proofs.Goal.Possession
import Apprentice.Proofs.Goal.Report
import Apprentice.Proofs.Goal.Situation
import Apprentice.Proofs.Goal.Store
import Apprentice.Proofs.Goal.Success
import Apprentice.Proofs.Goal.Understanding
import Apprentice.Proofs.Json.RoundTrip
import Apprentice.Proofs.Lexicon.CurriculumLine
import Apprentice.Proofs.Lexicon.CurriculumReport
import Apprentice.Proofs.Lexicon.Growth
import Apprentice.Proofs.Lexicon.Persistence
import Apprentice.Proofs.Lexicon.PrefixBlock
import Apprentice.Proofs.Lexicon.Records
import Apprentice.Proofs.Lexicon.Reteaching
import Apprentice.Proofs.Lexicon.StartingWords
import Apprentice.Proofs.Lexicon.Teaching
import Apprentice.Proofs.Lexicon.WordChar
import Apprentice.Proofs.Text.Blank
import Apprentice.Proofs.Text.ByteLength
import Apprentice.Proofs.Text.Ends
import Apprentice.Proofs.Text.Parts
import Apprentice.Proofs.Text.Recomposition
import Apprentice.Proofs.Text.Trim
import Apprentice.Proofs.Text.Uncapitalized
import Apprentice.Proofs.Utterance.Alternatives
import Apprentice.Proofs.Utterance.Bare
import Apprentice.Proofs.Utterance.CheckWords
import Apprentice.Proofs.Utterance.Conditional
import Apprentice.Proofs.Utterance.Goal
import Apprentice.Proofs.Utterance.Grown
import Apprentice.Proofs.Utterance.Phrase
import Apprentice.Proofs.Utterance.Present
import Apprentice.Proofs.Utterance.Preview
import Apprentice.Proofs.Utterance.Recast
import Apprentice.Proofs.Utterance.Restated
import Apprentice.Proofs.Utterance.Shapes
import Apprentice.Proofs.Utterance.Spans
import Apprentice.Proofs.Utterance.Spoken
import Apprentice.Proofs.Utterance.TeachForm
import Apprentice.Proofs.Utterance.Unplaced
import Apprentice.Proofs.World.Cells
import Apprentice.Proofs.World.Change
import Apprentice.Proofs.World.Containment
import Apprentice.Proofs.World.Contraction
import Apprentice.Proofs.World.FreeCells
import Apprentice.Proofs.World.History
import Apprentice.Proofs.World.InPlace
import Apprentice.Proofs.World.NameSearch
import Apprentice.Proofs.World.Naming
import Apprentice.Proofs.World.Ownership
import Apprentice.Proofs.World.Removal
import Apprentice.Proofs.World.Replay
import Apprentice.Proofs.World.Run
import Apprentice.Proofs.World.Sound
import Apprentice.Proofs.World.View
import Apprentice.Proofs.World.Walk
import Apprentice.Resolver
import Apprentice.Text.Alphanumeric
import Apprentice.Text.Blank
import Apprentice.Text.Canonical
import Apprentice.Text.Cased
import Apprentice.Text.CodeRange
import Apprentice.Text.CombiningClass
import Apprentice.Text.Composition
import Apprentice.Text.Decomposition
import Apprentice.Text.Lines
import Apprentice.Text.LowerCase
import Apprentice.Text.Number
import Apprentice.Text.Quoted
import Apprentice.Text.Substring
import Apprentice.Text.Visible
import Apprentice.Toml.Basic
import Apprentice.Toml.Parser
import Apprentice.Toml.Printer
import Apprentice.Toml.Scalar
import Apprentice.Toml.Tree
import Apprentice.Utterance.Command
import Apprentice.Utterance.Error
import Apprentice.Utterance.Goal
import Apprentice.Utterance.Teach
import Apprentice.Utterance.Token
import Apprentice.Utterance.Words
import Apprentice.World.Basic
import Apprentice.World.Event
import Apprentice.World.Object
