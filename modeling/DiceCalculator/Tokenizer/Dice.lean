import DiceCalculator.Tokenizer.Basic

/-!
# The tokens of dice expressions

A die comes before a number and before a word, so that `d6` is one token. All
rules are about ASCII: digits, letters and white space of other scripts belong
to no token.
-/

namespace DiceCalculator.Dice

open Pattern

def digits : CharSet :=
  ⟨[('0', '9')], false⟩

def letters : CharSet :=
  ⟨[('A', 'Z'), ('a', 'z')], false⟩

/-- The ASCII white space: tab, line feed, vertical tab, form feed, carriage return and space. -/
def blanks : CharSet :=
  ⟨[('\t', '\r'), (' ', ' ')], false⟩

def oneOf (chars : List Char) : Pattern :=
  .one (CharSet.normal ⟨chars.map fun c => (c, c), false⟩)

/-- One character of the set or more, as many as there are. -/
def someOf (set : CharSet) : Pattern :=
  .many 1 none true (.one set)

def atStart (pattern : Pattern) : Pattern :=
  .seq (.assert .start) pattern

def tokenizer : Tokenizer where
  rules := [
    ⟨atStart (.seq (oneOf ['D', 'd']) (someOf digits)), .dice⟩,
    ⟨atStart (someOf digits), .number⟩,
    ⟨atStart (oneOf [',', '=', '(', ')', '.']), .literal⟩,
    ⟨atStart (oneOf ['+', '-']), .arithOp⟩,
    ⟨atStart (oneOf ['/', '*']), .factorOp⟩,
    ⟨atStart (someOf blanks), .whitespace⟩,
    ⟨atStart (someOf letters), .charSequence⟩]

/-- The rules in their written form. -/
def written : List (String × Token.Kind) :=
  [("[Dd][0-9]+", .dice), ("[0-9]+", .number), ("[,=().]", .literal), ("[+\\-]", .arithOp),
    ("[/*]", .factorOp), ("(?-u:\\s)+", .whitespace), ("[a-zA-Z]+", .charSequence)]

/-- The table is what registering the written rules one after the other leads to. -/
theorem tokenizer_written :
    written.foldlM (fun table rule => table.add? rule.1 rule.2) ({} : Tokenizer) =
      some tokenizer := by
  decide +kernel

def tokenize (text : String) : Except LexError (List Token) :=
  tokenizer.tokenize text

end DiceCalculator.Dice
