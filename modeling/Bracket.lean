import Bracket.Cursor
import Bracket.Main
import Bracket.Number.Bits
import Bracket.Proofs.Grammar
import Bracket.Proofs.Session.Caches
import Bracket.Proofs.Session.Depth
import Bracket.Proofs.Session.Limit
import Bracket.Proofs.Source
import Bracket.Proofs.Evaluator.Reuse
import Bracket.Proofs.Likeness.Routine
import Bracket.Proofs.Evaluator.Frame
import Bracket.Proofs.Session.Frame
import Bracket.Proofs.Lexical.Pairing
import Bracket.Proofs.Lexical.Simulation
import Bracket.Proofs.Evaluator.Caller
import Bracket.Proofs.Order.Evaluator
import Bracket.Proofs.Parallel.Pairing
import Bracket.Proofs.Parallel.Simulation
import Bracket.Proofs.Parallel.Laziness
import Bracket.Proofs.Session.Mentioned
import Bracket.Proofs.Registry
import Bracket.Proofs.Session.Functions
import Bracket.Proofs.Evaluator.Failure
import Bracket.Proofs.Evaluator.Height
import Bracket.Proofs.Spelling
import Bracket.Proofs.Placement
import Bracket.Proofs.Printing.Legible
import Bracket.Proofs.Session.Trees
import Bracket.Proofs.Evaluator.Places
import Bracket.Proofs.Parallel.Sequence
import Bracket.Proofs.Session.Joining
import Bracket.Proofs.Stats
import Bracket.Proofs.Session.Statistics
import Bracket.Proofs.Offsets
import Bracket.Proofs.Session.Chains
import Bracket.Proofs.Json.Scalars
import Bracket.Proofs.Json.Documents
import Bracket.Proofs.Number
import Bracket.Proofs.Json.Values
import Bracket.Proofs.Delimiters
import Bracket.Proofs.Cutting
import Bracket.Proofs.Session.Literals
import Bracket.Proofs.Sorting.Library
import Bracket.Proofs.Sorting.Evaluator
import Bracket.Proofs.Evaluator.Values
import Bracket.Proofs.Json.Normal
import Bracket.Proofs.Containment
import Bracket.Proofs.Template
import Bracket.Proofs.Slicing
import Bracket.Proofs.Date.Calendar
import Bracket.Proofs.Date.Parts
import Bracket.Proofs.Equality
import Bracket.Proofs.Date.Text
import Bracket.Proofs.Parallel.Mapping
import Bracket.Proofs.Ranking
import Bracket.Proofs.Refining
import Bracket.Proofs.Cursor
import Bracket.Proofs.Radix
import Bracket.Proofs.Attempts
import Bracket.Proofs.Objects
