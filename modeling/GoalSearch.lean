import GoalSearch.File.Tree
import GoalSearch.Main
import GoalSearch.Proofs.Search.Restore
import GoalSearch.Proofs.Search.Stream
import GoalSearch.Proofs.Reader.Scan
import GoalSearch.Proofs.Store.Alias
import GoalSearch.Proofs.Store.Valuation
import GoalSearch.Proofs.Search.Solution
import GoalSearch.Proofs.Build.Step
import GoalSearch.Proofs.Build.Growth
import GoalSearch.Proofs.Rule
import GoalSearch.Proofs.Build.Proper
import GoalSearch.Proofs.Truth
import GoalSearch.Proofs.Build.Fit
import GoalSearch.Proofs.Build.Meaning
import GoalSearch.Proofs.Engine.Reachable
import GoalSearch.Proofs.Engine.Truth
import GoalSearch.Proofs.Search.Invariant
import GoalSearch.Proofs.Store.Lawful
import GoalSearch.Proofs.Store.Session
import GoalSearch.Proofs.Store.Unifier
import GoalSearch.Proofs.Store.Recording
import GoalSearch.Proofs.Reader.Parts
import GoalSearch.Proofs.Reader.Unclosed
import GoalSearch.Proofs.Reader.Written
import GoalSearch.Proofs.Text.Encoding
import GoalSearch.Proofs.Command.Evaluation
import GoalSearch.Proofs.Command.Lines
import GoalSearch.Proofs.Command.Pending
import GoalSearch.Proofs.Command.Program
import GoalSearch.Proofs.Search.Agreement
import GoalSearch.Proofs.Build.Labels
import GoalSearch.Proofs.Build.Follow
import GoalSearch.Proofs.Build.Depict
import GoalSearch.Interpreter
import GoalSearch.Proofs.Interpreter.Query
import GoalSearch.Proofs.Interpreter.Refinement
import GoalSearch.Proofs.Interpreter.History
import GoalSearch.Proofs.Interpreter.Mirror
import GoalSearch.Proofs.Build.Sketch
import GoalSearch.Proofs.Substitution
import GoalSearch.Proofs.Build.Transfer
import GoalSearch.Proofs.Build.Inlining
import GoalSearch.Proofs.Engine.Inlining
import GoalSearch.Proofs.Search.Reordering
import GoalSearch.Proofs.Renaming
import GoalSearch.Proofs.Search.Undo
import GoalSearch.Proofs.Build.Renaming
import GoalSearch.Proofs.Engine.Renaming
import GoalSearch.Proofs.Build.Calls
import GoalSearch.Proofs.Search.Regrouping
import GoalSearch.Proofs.Build.Persistence
import GoalSearch.Proofs.Engine.Depth
import GoalSearch.Proofs.Build.Chains
import GoalSearch.Proofs.Build.Reading
import GoalSearch.Proofs.Build.Footprint
import GoalSearch.Proofs.Search.Branch
import GoalSearch.Proofs.Search.Rerun
import GoalSearch.Proofs.Search.Widening
import GoalSearch.Proofs.Search.Footprint
import GoalSearch.Proofs.Search.Independence
import GoalSearch.Proofs.Search.Nesting
import GoalSearch.Proofs.Build.CallTree
import GoalSearch.Proofs.Termination
