import DiceCalculator.Log.Steps

/-!
# Sessions

A session rolls one text after another with the same roller. The count of rolls
begins anew for each text, so no text has less of the allowance because of an
earlier one; a text that is too long or cannot be read changes nothing.
-/

namespace DiceCalculator

inductive DiceError where
  /-- The text has `length` bytes, more than the limit. -/
  | inputTooLong (length limit : Nat)
  | lex (error : LexError)
  | cannotParse
  | roll (error : RollError)
  deriving DecidableEq, Repr

def DiceError.message : DiceError → String
  | .inputTooLong length limit => s!"input is {length} bytes long; the limit is {limit}"
  | .lex error => error.message
  | .cannotParse => "no production matches the input"
  | .roll error => error.message

structure Config where
  /-- The most bytes a text may have. -/
  maxInputLength : Nat := 256
  /-- The most rolls for one text; no limit if absent. -/
  maxRolls : Option Nat := some 1000
  deriving DecidableEq, Repr

/-- The limits, and the context in which all texts are rolled. -/
structure Session (σ : Type) where
  config : Config
  context : Context σ

structure Outcome where
  tokens : List Token
  values : Values
  deriving DecidableEq

/-- The tokens on one line and the values on the next. -/
def Outcome.display (outcome : Outcome) : String :=
  Text.bracketed (outcome.tokens.map Token.display) ++ "\n"
    ++ Text.bracketed (outcome.values.toList.map Value.display)

/-- Rolls a text in a context: its tokens, the match of a dice expression at their end, and the
values of that match with the count begun anew. -/
def Context.rollText {σ : Type} [Roller σ] (context : Context σ) (text : String) :
    Logged (Except DiceError Outcome × Context σ) := do
  match ← Dice.tokenizer.tokenizeLogged text with
  | .error error => return (.error (.lex error), context)
  | .ok tokens =>
    match ← Dice.parseLogged tokens with
    | none => return (.error .cannotParse, context)
    | some found =>
      match ← found.tree.evaluateLogged Dice.Action.run context.reset with
      | (.error error, context) => return (.error (.roll error), context)
      | (.ok values, context) => return (.ok ⟨tokens, values⟩, context)

namespace Session

variable {σ : Type}

def start (config : Config) (roller : σ) : Session σ :=
  ⟨config, .fresh config.maxRolls roller⟩

/-- Rolls a text unless it is too long. -/
def roll [Roller σ] (session : Session σ) (text : String) :
    Logged (Except DiceError Outcome × Session σ) :=
  if session.config.maxInputLength < text.utf8ByteSize then
    pure (.error (.inputTooLong text.utf8ByteSize session.config.maxInputLength), session)
  else do
    let (result, context) ← session.context.rollText text
    return (result, { session with context })

/-- The answer to a text that cannot be rolled, whatever the reason. -/
def cannotParse : String :=
  "String can't be parsed."

/-- Rolls a text and shows the outcome. The reason for a failure is recorded only. -/
def answer [Roller σ] (session : Session σ) (text : String) : Logged (String × Session σ) := do
  match ← session.roll text with
  | (.ok outcome, session) => return (outcome.display, session)
  | (.error error, session) =>
    .write .info s!"cannot roll {Text.quoted text}: {error.message}"
    return (cannotParse, session)

end Session

/-- Rolls a single text without a limit on the rolls. -/
def roll {σ : Type} [Roller σ] (text : String) (roller : σ) : Logged (Except DiceError Values) := do
  let (result, _) ← (Context.fresh none roller).rollText text
  return result.map Outcome.values

end DiceCalculator
