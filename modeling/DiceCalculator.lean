import DiceCalculator.Grammar.Builder
import DiceCalculator.Main
import DiceCalculator.Roll.Recorded
import DiceCalculator.Proofs.Matching.Invariant
import DiceCalculator.Proofs.Matching.Derivation
import DiceCalculator.Proofs.Matching.Memory
import DiceCalculator.Proofs.Matching.Bounds
import DiceCalculator.Proofs.Dice.Language
import DiceCalculator.Proofs.Matching.Covering
import DiceCalculator.Proofs.Dice.Parsing
import DiceCalculator.Proofs.Evaluation.Budget
import DiceCalculator.Proofs.Evaluation.Totality
import DiceCalculator.Proofs.Evaluation.Agreement
import DiceCalculator.Proofs.Session.Independence
import DiceCalculator.Proofs.Evaluation.Ledger
import DiceCalculator.Proofs.Evaluation.Counting
import DiceCalculator.Proofs.Evaluation.Operations
import DiceCalculator.Proofs.Evaluation.Work
import DiceCalculator.Proofs.Dice.Lexing
import DiceCalculator.Proofs.Dice.Printing
import DiceCalculator.Proofs.Dice.Runs
import DiceCalculator.Proofs.Pattern.Soundness
import DiceCalculator.Proofs.Tokenizer.FirstMatch
import DiceCalculator.Proofs.Matching.Quiet
import DiceCalculator.Proofs.Session.Listing
import DiceCalculator.Proofs.Dice.Inertness
import DiceCalculator.Proofs.Evaluation.Denotation
import DiceCalculator.Proofs.Evaluation.Saturation
import DiceCalculator.Proofs.Evaluation.Lists
import DiceCalculator.Proofs.Session.Precedence
import DiceCalculator.Proofs.Evaluation.Parentheses
import DiceCalculator.Proofs.Evaluation.Drawing
import DiceCalculator.Proofs.Evaluation.Expansion
import DiceCalculator.Proofs.Evaluation.Repetition
import DiceCalculator.Proofs.Session.Groups
import DiceCalculator.Proofs.Session.GroupTotals
import DiceCalculator.Proofs.Evaluation.Literals
import DiceCalculator.Proofs.Session.Answers
import DiceCalculator.Proofs.Grammar.Building
import DiceCalculator.Proofs.Tokenizer.Extension
import DiceCalculator.Proofs.Roll.Uniformity
import DiceCalculator.Proofs.Matching.Frame
import DiceCalculator.Proofs.Pattern.NormalForm
import DiceCalculator.Proofs.Pattern.Scanning
import DiceCalculator.Proofs.Pattern.Enclosed
import DiceCalculator.Proofs.Pattern.Standard
import DiceCalculator.Proofs.Pattern.Relocation
import DiceCalculator.Proofs.Tokenizer.Anchoring
