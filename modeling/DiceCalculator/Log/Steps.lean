import DiceCalculator.Dice.Grammar
import DiceCalculator.Log.Basic
import DiceCalculator.Tokenizer.Dice

/-!
# The steps of a calculation

Cutting text into tokens, matching and evaluating, each with the records it
writes. The results are those of the plain functions.
-/

namespace DiceCalculator

/-- The tokens of the text. Success is recorded. -/
def Tokenizer.tokenizeLogged (tokenizer : Tokenizer) (text : String) :
    Logged (Except LexError (List Token)) := do
  let result := tokenizer.tokenize text
  if let .ok tokens := result then
    .write .debug s!"tokenized {Text.quoted text} into {tokens.length} tokens"
  return result

@[simp]
theorem Tokenizer.result_tokenizeLogged (tokenizer : Tokenizer) (text : String) :
    (tokenizer.tokenizeLogged text).result = tokenizer.tokenize text := by
  unfold tokenizeLogged
  cases tokenizer.tokenize text <;> rfl

namespace Event

/-- How much the event matters: a rule that comes to its answer is routine, one that goes round
in circles or takes nothing is a flaw of the grammar. -/
def severity : Event → Severity
  | .matched .. => .trace
  | .failed .. => .trace
  | .reentered .. => .warn
  | .tookNothing .. => .warn

def message {α : Type} (grammar : Grammar α) : Event → String
  | .matched rule length stop =>
    s!"{grammar.displayName rule} matched {length} of {stop} tokens"
  | .failed rule stop => s!"{grammar.displayName rule} failed with {stop} tokens"
  | .reentered rule stop =>
    s!"{grammar.displayName rule} re-entered with {stop} tokens left; treating it as no match"
  | .tookNothing rule =>
    s!"{grammar.displayName rule} matched without consuming any tokens; failing the sequence"

end Event

/-- The match of a rule before the end of the tokens. Every event is recorded. -/
def Grammar.matchLogged {α : Type} (grammar : Grammar α) (id : RuleId) (tokens : List Token) :
    Logged (Option (Match α)) :=
  let matching := grammar.matchRule id tokens
  ⟨matching.events.map fun event => ⟨event.severity, event.message grammar⟩, matching.found⟩

/-- The match of a dice expression before the end of the tokens. That there is none is recorded
too. -/
def Dice.parseLogged (tokens : List Token) : Logged (Option (Match Dice.Action)) := do
  let found ← Dice.grammar.matchLogged Dice.grammar.root tokens
  if found.isNone then .write .debug s!"no parse for {tokens.length} tokens"
  return found

@[simp]
theorem Dice.result_parseLogged (tokens : List Token) :
    (Dice.parseLogged tokens).result = (Dice.grammar.parse tokens).found := by
  rw [Dice.parseLogged, Logged.result_bind, Grammar.parse, Grammar.matchLogged]
  cases (Dice.grammar.matchRule Dice.grammar.root tokens).found <;> rfl

/-- The values of a tree in a context, and the context afterwards. Success is recorded. -/
def Tree.evaluateLogged {α σ : Type} (meaning : Meaning α σ) (tree : Tree α)
    (context : Context σ) : Logged (Except RollError Values × Context σ) := do
  let (outcome, context) := (tree.evaluate meaning).runIn context
  if let .ok values := outcome then
    .write .debug
      s!"evaluated to {Text.bracketed (values.toList.map Value.display)} using {context.rolls} rolls"
  return (outcome, context)

@[simp]
theorem Tree.result_evaluateLogged {α σ : Type} (meaning : Meaning α σ) (tree : Tree α)
    (context : Context σ) :
    (tree.evaluateLogged meaning context).result = (tree.evaluate meaning).runIn context := by
  unfold evaluateLogged
  rcases (tree.evaluate meaning).runIn context with ⟨error | values, later⟩ <;> rfl

end DiceCalculator
