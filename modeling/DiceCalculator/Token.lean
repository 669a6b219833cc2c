/-!
# Tokens

A token is a piece of the input together with what the piece was taken for.
White space has a kind of its own, so that a table of token rules can say what
separates tokens.
-/

namespace DiceCalculator

/-- What a piece of text is taken for. -/
inductive Token.Kind where
  | dice
  | number
  | literal
  | arithOp
  | factorOp
  | whitespace
  | charSequence
  deriving DecidableEq, Repr

def Token.Kind.label : Token.Kind → String
  | .dice => "DICE"
  | .number => "NUMBER"
  | .literal => "LITERAL"
  | .arithOp => "ARITHOP"
  | .factorOp => "FACTOROP"
  | .whitespace => "WHITESPACE"
  | .charSequence => "CHARSEQUENCE"

structure Token where
  kind : Token.Kind
  text : String
  deriving DecidableEq, Repr

/-- A token is shown as its text and its kind with `=` between them. -/
def Token.display (token : Token) : String :=
  token.text ++ "=" ++ token.kind.label

end DiceCalculator
