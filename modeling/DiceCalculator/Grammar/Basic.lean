import DiceCalculator.Text.Listing
import DiceCalculator.Text.Quoted
import DiceCalculator.Token

/-!
# Grammars

A grammar is a list of named rules. Each rule has alternatives in the order of
their preference, and an alternative takes one token of a kind, one token of an
exact text, or a sequence of rules. Rules refer to one another by their place
in the list, so a rule may refer to itself.
-/

namespace DiceCalculator

/-- The name of a rule. The rule for a piece of punctuation is named by its text. -/
inductive RuleName where
  | plusMinusOp
  | multDivOp
  | dotOperation
  | name
  | atom
  | term
  | arithExpr
  | assignment
  | expr
  | literal (text : String)
  deriving DecidableEq, Repr

namespace RuleName

/-- The name in messages; a text stands in quotes. -/
def display : RuleName → String
  | .plusMinusOp => "PlusMinusOp"
  | .multDivOp => "MultDivOp"
  | .dotOperation => "DotOperation"
  | .name => "Name"
  | .atom => "Atom"
  | .term => "Term"
  | .arithExpr => "ArithExpr"
  | .assignment => "Assignment"
  | .expr => "Expr"
  | .literal text => Text.quoted text

def inspect : RuleName → String
  | .literal text => "Literal(" ++ Text.quoted text ++ ")"
  | named => named.display

end RuleName

structure RuleId where
  index : Nat
  deriving DecidableEq, Repr

def RuleId.inspect (id : RuleId) : String :=
  "RuleId(" ++ id.index.repr ++ ")"

/-- One way for a rule to match; `α` is the type of actions. -/
inductive Alternative (α : Type) where
  | terminal (kind : Token.Kind) (action : α)
  /-- One token of exactly this text, whatever its kind. -/
  | literal (text : String)
  | sequence (parts : List RuleId) (action : α)
  deriving DecidableEq

def Alternative.inspect {α : Type} : Alternative α → String
  | .terminal kind _ => "Terminal(Terminal(" ++ kind.label ++ "))"
  | .literal text => "Literal(Literal \x7b text: " ++ Text.quoted text ++ " \x7d)"
  | .sequence parts _ => "Sequence(Sequence(" ++ Text.bracketed (parts.map RuleId.inspect) ++ "))"

structure Rule (α : Type) where
  name : RuleName
  alternatives : List (Alternative α)
  deriving DecidableEq

def Rule.inspect {α : Type} (rule : Rule α) : String :=
  "Rule \x7b name: " ++ rule.name.inspect
    ++ ", alternatives: " ++ Text.bracketed (rule.alternatives.map Alternative.inspect) ++ " \x7d"

structure Grammar (α : Type) where
  rules : List (Rule α)
  root : RuleId
  deriving DecidableEq

namespace Grammar

variable {α : Type}

def rule? (grammar : Grammar α) (id : RuleId) : Option (Rule α) :=
  grammar.rules[id.index]?

/-- The place of the first rule with the name. -/
def ruleId? (grammar : Grammar α) (sought : RuleName) : Option RuleId :=
  (grammar.rules.findIdx? (·.name = sought)).map RuleId.mk

/-- The displayed name of the rule at a place; empty if there is none. -/
def displayName (grammar : Grammar α) (id : RuleId) : String :=
  match grammar.rule? id with
  | some rule => rule.name.display
  | none => ""

def inspect (grammar : Grammar α) : String :=
  "Grammar \x7b rules: " ++ Text.bracketed (grammar.rules.map Rule.inspect)
    ++ ", root: " ++ grammar.root.inspect ++ " \x7d"

end Grammar

end DiceCalculator
