import DiceCalculator.Value.Basic

/-!
# Numerals

Reading a number from text. A numeral is a row of ASCII digits, with a sign
where one is allowed; the callers say what a text stands for that is no numeral
or too large for its use.
-/

namespace DiceCalculator.Numeral

/-- The number that a row of digits spells. -/
def digits? (text : List Char) : Option Nat :=
  if text ≠ [] ∧ text.all Char.isDigit then some (Nat.ofDigitChars 10 text 0) else none

/-- A row of digits that may have a plus sign before it. -/
def natural? : List Char → Option Nat
  | '+' :: text => digits? text
  | text => digits? text

/-- A row of digits that may have a plus or a minus sign before it. -/
def integer? : List Char → Option Int
  | '+' :: text => (digits? text).map Int.ofNat
  | '-' :: text => (digits? text).map fun n => -Int.ofNat n
  | text => (digits? text).map Int.ofNat

end DiceCalculator.Numeral

namespace DiceCalculator

/-- The value a numeral spells; the greatest one for any other text and for a number out of
range on either side. -/
def Value.ofNumeral (text : String) : Value :=
  match Numeral.integer? text.toList with
  | none => .greatest
  | some n => if h : -0x8000000000000000 ≤ n ∧ n ≤ 0x7fffffffffffffff then ⟨n, h.1, h.2⟩ else .greatest

end DiceCalculator
