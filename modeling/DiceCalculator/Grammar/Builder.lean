import DiceCalculator.Grammar.Basic

/-!
# Building grammars

Rules are declared by name and given alternatives one at a time. A rule may be
referred to before it has any. Declaring a name again finds the rule it has, so
the place of a rule never changes.
-/

namespace DiceCalculator

structure Grammar.Builder (α : Type) where
  rules : List (Rule α) := []
  deriving DecidableEq

namespace Grammar.Builder

variable {α : Type}

/-- The place of the rule with the name, declared without alternatives if it is new. -/
def rule (sought : RuleName) (builder : Builder α) : RuleId × Builder α :=
  match builder.rules.findIdx? (·.name = sought) with
  | some index => (⟨index⟩, builder)
  | none => (⟨builder.rules.length⟩, ⟨builder.rules ++ [⟨sought, []⟩]⟩)

/-- Gives the rule at a place one more alternative, after all it has. -/
def add (id : RuleId) (alternative : Alternative α) (builder : Builder α) : Builder α :=
  ⟨builder.rules.modify id.index fun rule =>
    { rule with alternatives := rule.alternatives ++ [alternative] }⟩

def addTerminal (id : RuleId) (kind : Token.Kind) (action : α) : Builder α → Builder α :=
  add id (.terminal kind action)

def addLiteral (id : RuleId) (text : String) : Builder α → Builder α :=
  add id (.literal text)

def addSequence (id : RuleId) (parts : List RuleId) (action : α) : Builder α → Builder α :=
  add id (.sequence parts action)

def isBare (builder : Builder α) (id : RuleId) : Bool :=
  builder.rules[id.index]?.all (·.alternatives.isEmpty)

/-- The place of the rule for the punctuation `text`. The rule takes a token of that text, unless
it was given alternatives before. -/
def literal (text : String) (builder : Builder α) : RuleId × Builder α :=
  let (id, builder) := builder.rule (.literal text)
  if builder.isBare id then (id, builder.addLiteral id text) else (id, builder)

def build (root : RuleId) (builder : Builder α) : Grammar α :=
  ⟨builder.rules, root⟩

end Grammar.Builder

end DiceCalculator
