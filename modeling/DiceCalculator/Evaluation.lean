import DiceCalculator.Roll.Context
import DiceCalculator.Tree.Basic

/-!
# Evaluation

What the actions of a tree mean is given from outside: a meaning takes a node
and the computations of its children, and may run each of them never, once or
many times. Running one twice rolls its dice twice.
-/

namespace DiceCalculator

/-- What actions do: from the action, its node and the computations of the node's children. -/
abbrev Meaning (α σ : Type) := α → Tree α → List (RollM σ Values) → RollM σ Values

namespace Tree

variable {α σ : Type}

mutual

/-- The computation that a tree stands for. Punctuation has no value. -/
def evaluate (meaning : Meaning α σ) : Tree α → RollM σ Values
  | .leaf action token => meaning action (.leaf action token) []
  | .literal token => throw (.noValue token.text)
  | .branch action parts => meaning action (.branch action parts) (evaluateOf meaning parts)

/-- The computations of trees in a row, without punctuation. -/
def evaluateOf (meaning : Meaning α σ) : List (Tree α) → List (RollM σ Values)
  | [] => []
  | tree :: rest =>
    if tree.isLiteral then evaluateOf meaning rest
    else tree.evaluate meaning :: evaluateOf meaning rest

end

theorem evaluateOf_eq (meaning : Meaning α σ) (parts : List (Tree α)) :
    evaluateOf meaning parts = (parts.filter (!·.isLiteral)).map (evaluate meaning) := by
  induction parts with
  | nil => rfl
  | cons tree rest inductionHypothesis =>
    cases h : tree.isLiteral <;> simp [evaluateOf, h, inductionHypothesis]

/-- A node's meaning is given the computations of its children. -/
theorem evaluate_branch (meaning : Meaning α σ) (action : α) (parts : List (Tree α)) :
    (branch action parts).evaluate meaning =
      meaning action (.branch action parts)
        ((branch action parts).children.map (evaluate meaning)) := by
  rw [evaluate, evaluateOf_eq, children]

end Tree

/-- The computation of the operand with this number. -/
def operand {σ : Type} (operands : List (RollM σ Values)) (index : Nat) : RollM σ Values :=
  match operands[index]? with
  | some computation => computation
  | none => throw (.missingOperand index)

/-- The first value of the operand with this number. -/
def firstOf {σ : Type} (operands : List (RollM σ Values)) (index : Nat) : RollM σ Value := do
  return (← operand operands index).first

end DiceCalculator
