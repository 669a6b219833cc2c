import DiceCalculator.Evaluation
import DiceCalculator.Value.Numeral

/-!
# What dice expressions mean

The actions of the dice grammar. Operands are evaluated from left to right.
Names have no values yet and stand for minus one; an assignment is worth its
right side and binds nothing.
-/

namespace DiceCalculator.Dice

/-- What a node of a dice expression does with its operands. -/
inductive Action where
  /-- One for an operator of the first sort, minus one for `-` and `/`. -/
  | sign
  | name
  | number
  | die
  /-- The values of the only operand. -/
  | same
  /-- The product or the quotient of the first and the third operand, by the sign between them. -/
  | scale
  /-- The sum or the difference of the first and the third operand, by the sign between them. -/
  | combine
  /-- The negative of the operand. -/
  | negate
  /-- The sum of as many rounds of the second operand as the first one says. -/
  | rounds
  /-- The values of the second operand. -/
  | assign
  /-- The values of the first operand and then those of the second. -/
  | list
  deriving DecidableEq, Repr

/-- The value of an operator: minus one for minus and division, one for all else. -/
def signOf (text : String) : Value :=
  if text = "-" ∨ text = "/" then -1 else 1

def nameValue : Value :=
  -1

/-- The die that a token asks for: its text after the first character is the number of sides.
A number too large for a die asks for the most there can be, and so does anything that is not a
number or that follows a character outside ASCII. None for a die without sides. -/
def sidesOf? (text : String) : Option Sides :=
  match text.toList with
  | [] => some .greatest
  | c :: digits =>
    if c.toNat < 128 then
      match Numeral.natural? digits with
      | some n => Sides.ofNat? n
      | none => some .greatest
    else some .greatest

/-- The sum of `n` rounds added to `total` one after the other. -/
def addRounds {σ : Type} (round : RollM σ Value) : Nat → Value → RollM σ Value
  | 0, total => pure total
  | n + 1, total => do addRounds round n (total + (← round))

namespace Action

variable {σ : Type} [Roller σ]

/-- Runs an action on its node and the computations of the node's children. -/
def run (action : Action) (node : Tree Action) (operands : List (RollM σ Values)) :
    RollM σ Values :=
  match action with
  | .sign => pure (.single (signOf node.text))
  | .name => pure (.single nameValue)
  | .number => pure (.single (.ofNumeral node.text))
  | .die =>
    match sidesOf? node.text with
    | none => pure (.single 0)
    | some sides => do
      let face ← RollM.rollDie sides
      return .single (.clamp face.toNat)
  | .same => operand operands 0
  | .scale => do
    let left ← firstOf operands 0
    let sign ← firstOf operands 1
    let right ← firstOf operands 2
    return .single (if sign = 1 then left * right else left / right)
  | .combine => do
    let left ← firstOf operands 0
    let sign ← firstOf operands 1
    let right ← firstOf operands 2
    return .single (left + sign * right)
  | .negate => do
    let value ← firstOf operands 0
    return .single (-value)
  | .rounds => do
    let count ← firstOf operands 0
    RollM.announce count.toInt.toNat
    return .single (← addRounds (firstOf operands 1) count.toInt.toNat 0)
  | .assign => operand operands 1
  | .list => do
    let before ← operand operands 0
    let after ← operand operands 1
    return before ++ after

end Action

def evaluate {σ : Type} [Roller σ] (tree : Tree Action) : RollM σ Values :=
  tree.evaluate Action.run

end DiceCalculator.Dice
