import Rulebook.Ast.Json
import Rulebook.Ast.Render
import Rulebook.Check.NodeCheck
import Rulebook.Settings.Loader
import Rulebook.Workspace
import Rulebook.Proofs.Text.Boundary
import Rulebook.Proofs.Grammar.Provenance
import Rulebook.Proofs.Arithmetic.Layered
import Rulebook.Proofs.Ast.Whitespace
import Rulebook.Proofs.Arithmetic.Recursive
import Rulebook.Proofs.Editions.Renewal
import Rulebook.Proofs.Parse.Attempts
import Rulebook.Proofs.Inlining.Import
import Rulebook.Proofs.Parse.Classification
import Rulebook.Proofs.Parse.Comparison
import Rulebook.Proofs.Parse.DepthLimit
import Rulebook.Proofs.Parse.Framing
import Rulebook.Proofs.Parse.Furthest
import Rulebook.Proofs.Parse.Height
import Rulebook.Proofs.Parse.Coverage
import Rulebook.Proofs.Parse.Idleness
import Rulebook.Proofs.Parse.Lockstep
import Rulebook.Proofs.Parse.Patience
import Rulebook.Proofs.Parse.Termination
import Rulebook.Proofs.Recognition.Agreement
import Rulebook.Proofs.Grammar.Compilation
import Rulebook.Proofs.Tree.Pairing
import Rulebook.Proofs.Parse.Balance
import Rulebook.Proofs.Ast.Omission
import Rulebook.Proofs.Ast.Nesting
import Rulebook.Proofs.Ast.Terminals
import Rulebook.Proofs.Grammar.Refusal
import Rulebook.Proofs.Ast.Endings
import Rulebook.Proofs.Ast.Chains
import Rulebook.Proofs.Ast.Accessors
import Rulebook.Proofs.Parse.Lists
import Rulebook.Proofs.Parse.Sets
import Rulebook.Proofs.Rearrangement.Order
import Rulebook.Proofs.Ast.Items
import Rulebook.Proofs.Grammar.Reuse
import Rulebook.Proofs.Parse.Skipping
import Rulebook.Proofs.Pattern.Enclosing
import Rulebook.Proofs.Ast.Numerals
import Rulebook.Proofs.Pattern.Quoting
import Rulebook.Proofs.Ast.Quotation
import Rulebook.Proofs.Text.Marking
import Rulebook.Proofs.Ast.Preorder
import Rulebook.Proofs.Ast.Layout
