import DiceCalculator.Roll.Roller
import DiceCalculator.Text.Quoted
import DiceCalculator.Value.Basic

/-!
# Roll contexts

A context holds the roller and counts what is rolled: each die, and each round
of a repetition before its first one. With a limit, the request that takes the
count beyond it fails, and so does every later one until the count is reset.
A face is drawn only after its request was granted.
-/

namespace DiceCalculator

inductive RollError where
  | tooManyRolls
  | noValue (text : String)
  | missingOperand (index : Nat)
  deriving DecidableEq, Repr

def RollError.message : RollError → String
  | .tooManyRolls => "too many dice rolled"
  | .noValue text => Text.quoted text ++ " is punctuation and has no value"
  | .missingOperand index => "operand " ++ index.repr ++ " is missing"

/-- The roller, and what was rolled with it. -/
structure Context (σ : Type) where
  /-- The highest count that is granted, if there is one. -/
  limit : Option Nat
  /-- The count of requests since the last reset. -/
  rolls : Nat
  roller : σ

/-- A computation that may roll dice. The context survives an error. -/
abbrev RollM (σ : Type) := ExceptT RollError (StateM (Context σ))

namespace Context

variable {σ : Type}

def fresh (limit : Option Nat) (roller : σ) : Context σ :=
  ⟨limit, 0, roller⟩

def reset (context : Context σ) : Context σ :=
  { context with rolls := 0 }

/-- The highest count there is; a count beyond it stays there. -/
def greatestCount : Nat :=
  0xffffffffffffffff

def count (context : Context σ) (n : Nat) : Context σ :=
  { context with rolls := min greatestCount (context.rolls + n) }

def isExceeded (context : Context σ) : Bool :=
  context.limit.any (· < context.rolls)

end Context

namespace RollM

variable {α β σ : Type}

/-- Counts `n` requests, and fails if that takes the count beyond the limit. -/
def request (n : Nat) : RollM σ Unit := do
  modify (·.count n)
  if (← get).isExceeded then throw .tooManyRolls

/-- Announces `n` rounds of a repetition. -/
def announce (n : Nat) : RollM σ Unit :=
  request n

/-- The next face of the roller, not counted. -/
def draw [Roller σ] (sides : Sides) : RollM σ Face :=
  modifyGet fun context =>
    let (face, roller) := Roller.draw sides context.roller
    (face, { context with roller })

def rollDie [Roller σ] (sides : Sides) : RollM σ Face := do
  request 1
  draw sides

/-- The outcome of a computation in a context, and the context after it. -/
def runIn (computation : RollM σ α) (context : Context σ) :
    Except RollError α × Context σ :=
  StateT.run (ExceptT.run computation) context

@[simp]
theorem runIn_pure (a : α) (context : Context σ) :
    (pure a : RollM σ α).runIn context = (.ok a, context) :=
  rfl

@[simp]
theorem runIn_throw (error : RollError) (context : Context σ) :
    (throw error : RollM σ α).runIn context = (.error error, context) :=
  rfl

/-- The second computation goes on in the context that the first one leaves, unless that one
fails. -/
theorem runIn_bind (first : RollM σ α) (next : α → RollM σ β) (context : Context σ) :
    (first >>= next).runIn context =
      match first.runIn context with
      | (.ok a, context) => (next a).runIn context
      | (.error error, context) => (.error error, context) := by
  simp only [runIn, ExceptT.run_bind, StateT.run_bind]
  rcases StateT.run (ExceptT.run first) context with ⟨outcome | a, later⟩ <;> rfl

theorem runIn_bind_of_ok {first : RollM σ α} {next : α → RollM σ β} {context later : Context σ}
    {a : α} (run : first.runIn context = (.ok a, later)) :
    (first >>= next).runIn context = (next a).runIn later := by
  rw [runIn_bind, run]

theorem runIn_bind_of_error {first : RollM σ α} {next : α → RollM σ β} {context later : Context σ}
    {error : RollError} (run : first.runIn context = (.error error, later)) :
    (first >>= next).runIn context = (.error error, later) := by
  rw [runIn_bind, run]

theorem runIn_request (n : Nat) (context : Context σ) :
    (request n : RollM σ Unit).runIn context =
      (if (context.count n).isExceeded then .error .tooManyRolls else .ok (), context.count n) := by
  have granted : (request n : RollM σ Unit).runIn context =
      (if (context.count n).isExceeded then throw .tooManyRolls else pure () : RollM σ Unit).runIn
        (context.count n) := rfl
  rw [granted]
  split <;> rfl

theorem runIn_draw [Roller σ] (sides : Sides) (context : Context σ) :
    (draw sides).runIn context =
      (.ok (Roller.draw sides context.roller).1,
        { context with roller := (Roller.draw sides context.roller).2 }) :=
  rfl

theorem runIn_rollDie [Roller σ] (sides : Sides) (context : Context σ) :
    (rollDie sides).runIn context =
      if (context.count 1).isExceeded then (.error .tooManyRolls, context.count 1)
      else (.ok (Roller.draw sides context.roller).1,
        { context.count 1 with roller := (Roller.draw sides context.roller).2 }) := by
  rw [rollDie, runIn_bind, runIn_request]
  cases (context.count 1).isExceeded <;> rfl

end RollM

end DiceCalculator
