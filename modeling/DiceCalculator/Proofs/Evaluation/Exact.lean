import DiceCalculator.Proofs.Dice.Spelling
import DiceCalculator.Proofs.Evaluation.Simulation

/-!
# Exact arithmetic

What dice expressions are worth in whole numbers without bounds. A reckoning
follows the productions and draws its faces in the order of the text. Of what
it meets it notes all that a calculator of 64 bits may not have: numbers, the
sides of dice, and divisors.
-/

namespace DiceCalculator

variable {σ : Type}

/-- What a reckoning meets. -/
inductive Encounter where
  | number (n : Int)
  | sides (n : Nat)
  | divisor (n : Int)
  deriving DecidableEq

/-- There is a value, a die or a quotient for it. -/
def Encounter.Fits : Encounter → Prop
  | .number n => -0x8000000000000000 ≤ n ∧ n ≤ 0x7fffffffffffffff
  | .sides n => n < 0x100000000
  | .divisor n => n ≠ 0

instance : DecidablePred Encounter.Fits
  | .number n => inferInstanceAs (Decidable (-0x8000000000000000 ≤ n ∧ n ≤ 0x7fffffffffffffff))
  | .sides n => inferInstanceAs (Decidable (n < 0x100000000))
  | .divisor n => inferInstanceAs (Decidable (n ≠ 0))

/-- What a reckoning comes to, the roller after it, and all that it met. -/
structure Reckoned (σ α : Type) where
  result : α
  roller : σ
  met : List Encounter

/-- A calculation in whole numbers that may roll dice. -/
def Reckon (σ α : Type) :=
  σ → Reckoned σ α

namespace Reckon

instance : Monad (Reckon σ) where
  pure a := fun roller => ⟨a, roller, []⟩
  bind first next := fun roller =>
    let before := first roller
    let after := next before.result before.roller
    ⟨after.result, after.roller, before.met ++ after.met⟩

def meet (encounter : Encounter) : Reckon σ Unit :=
  fun roller => ⟨(), roller, [encounter]⟩

/-- A number on the way, or at the end of it. -/
def number (n : Int) : Reckon σ Int := do
  meet (.number n)
  return n

def draw [Roller σ] (sides : Sides) : Reckon σ Int := fun roller =>
  let (face, roller) := Roller.draw sides roller
  ⟨face.toNat, roller, []⟩

/-- A die with `n` sides, if there is one. Without sides it is worth nothing. -/
def die [Roller σ] (n : Nat) : Reckon σ Int := do
  meet (.sides n)
  if h : 0 < n ∧ n < 0x100000000 then draw ⟨n, h.1, h.2⟩ else return 0

/-- The sum of `n` reckonings one after the other, added to `total`. -/
def sum (each : Reckon σ Int) : Nat → Int → Reckon σ Int
  | 0, total => pure total
  | n + 1, total => do
    let summand ← each
    sum each n (← number (total + summand))

end Reckon

namespace Dice

open Reckon

variable [Roller σ]

/-- The worth of an expression without commas. -/
def worth : Tree Action → Reckon σ Int
  | .leaf .number token => number (spelled token.text.toList)
  | .leaf .die token => die (spelled token.text.toList.tail)
  | .branch .same [inner] => worth inner
  | .branch .same [.literal _, inner, .literal _] => worth inner
  | .branch .scale [left, .leaf .sign mark, right] => do
    let a ← worth left
    let b ← worth right
    if mark.text = "/" then
      meet (.divisor b)
      number (a.tdiv b)
    else number (a * b)
  | .branch .combine [left, .leaf .sign mark, right] => do
    let a ← worth left
    let b ← worth right
    if mark.text = "-" then
      meet (.number (-b))
      number (a - b)
    else number (a + b)
  | .branch .negate [.literal _, inner] => do
    let a ← worth inner
    number (-a)
  | .branch .rounds [count, inner] => do
    let n ← worth count
    sum (worth inner) n.toNat 0
  | .branch .assign [_, .literal _, value] => worth value
  -- What is left are the names.
  | _ => pure (-1)

/-- The worths of the expressions between the commas. -/
def worths : Tree Action → Reckon σ (List Int)
  | .branch .list [front, .literal _, last] => do
    let before ← worths front
    let after ← worth last
    return before ++ [after]
  | tree => do return [← worth tree]
termination_by structural tree => tree

end Dice

end DiceCalculator
