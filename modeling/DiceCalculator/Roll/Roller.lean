/-!
# Rollers

A roller gives faces of dice, one at a time, and keeps whatever it needs to go
on in a state. It need not be fair, nor keep to the die: those who use one say
what they expect of it.
-/

namespace DiceCalculator

/-- How many sides a die has: at least one, and a 32-bit number. -/
@[ext]
structure Sides where
  count : Nat
  pos : 0 < count := by decide
  lt_size : count < 0x100000000 := by decide
  deriving DecidableEq

def Sides.greatest : Sides :=
  { count := 0xffffffff }

/-- A die with `n` sides, or with the most there can be; none without sides. -/
def Sides.ofNat? (n : Nat) : Option Sides :=
  if h : 0 < n then some ⟨min n 0xffffffff, by omega, by omega⟩ else none

abbrev Face := UInt32

/-- A source of faces with a state of type `σ`. -/
class Roller (σ : Type) where
  /-- The next face of a die with these sides, and the state after it. -/
  draw : Sides → σ → Face × σ

end DiceCalculator
