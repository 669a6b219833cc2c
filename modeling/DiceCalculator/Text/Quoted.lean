import DiceCalculator.Text.Shapeless

/-!
# Quoted text

Text in double quotes. A quote, a backslash and the common controls have short
escapes, and a character without a shape of its own is spelled by its number.
Everything else stands as it is.
-/

namespace DiceCalculator.Text

/-- A character spelled by its number: `\u`, then lower-case hexadecimal digits in braces. -/
def byNumber (c : Char) : List Char :=
  ['\\', 'u', '\x7b'] ++ Nat.toDigits 16 c.toNat ++ ['\x7d']

/-- How a character is written between quotes. -/
def quotedChar (c : Char) : List Char :=
  match c with
  | '"' => ['\\', '"']
  | '\\' => ['\\', '\\']
  | '\n' => ['\\', 'n']
  | '\r' => ['\\', 'r']
  | '\t' => ['\\', 't']
  | '\x00' => ['\\', '0']
  | c =>
    if ' ' ≤ c && c ≤ '~' then [c]
    else if isShapeless c then byNumber c
    else [c]

def quoted (text : String) : String :=
  String.ofList (['"'] ++ text.toList.flatMap quotedChar ++ ['"'])

end DiceCalculator.Text
