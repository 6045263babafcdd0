import DialogScript.Eval.Node
import DialogScript.Main
import DialogScript.Proofs.Analysis.Completion
import DialogScript.Proofs.Analysis.Agreement
import DialogScript.Proofs.Table.Nested
import DialogScript.Proofs.Typing.Soundness
import DialogScript.Proofs.Typing.Mentions
import DialogScript.Proofs.Running.Declared
import DialogScript.Proofs.Running.Tracked
import DialogScript.Proofs.Running.Configured
import DialogScript.Proofs.Running.Once
import DialogScript.Proofs.Running.Ahead
import DialogScript.Proofs.Running.Kept
import DialogScript.Proofs.Running.Arrived
import DialogScript.Proofs.Analysis.Aborted
import DialogScript.Proofs.Analysis.Flattened
import DialogScript.Proofs.Checking.Footprint
import DialogScript.Proofs.Running.Commuting
import DialogScript.Proofs.Analysis.Rearranged
import DialogScript.Proofs.Evaluation.Double
import DialogScript.Proofs.Evaluation.Integer
import DialogScript.Proofs.Evaluation.Text
import DialogScript.Proofs.Evaluation.Comparison
import DialogScript.Proofs.Loading.Shorthand
import DialogScript.Proofs.Loading.Numbered
import DialogScript.Proofs.Rendering.ReadBack
import DialogScript.Proofs.Running.Tabled
import DialogScript.Proofs.Analysis.Targeted
import DialogScript.Proofs.Analysis.Attributed
import DialogScript.Proofs.Builtins.Classified
import DialogScript.Proofs.Builtins.Searching
import DialogScript.Proofs.Builtins.Outcome
import DialogScript.Proofs.Running.Measured
import DialogScript.Proofs.Text.Casing
import DialogScript.Proofs.Host.References
