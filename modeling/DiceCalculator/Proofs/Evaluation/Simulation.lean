import DiceCalculator.Dice.Action
import DiceCalculator.Roll.Recorded
import Mathlib.Data.List.Forall2

/-!
# Simulations

Dice expressions are evaluated by nothing but values, errors, announced rounds
and rolled dice, one after the other. So a relation between computations with
two rollers that survives these holds of the two evaluations of every tree. The
first use is that recording the draws of a roller changes no outcome.
-/

namespace DiceCalculator

namespace Context

variable {σ : Type}

/-- The context with its draws recorded from now on. -/
def recorded (context : Context σ) : Context (Recorded σ) :=
  ⟨context.limit, context.rolls, ⟨context.roller, []⟩⟩

/-- The context with the roller within the recorded one. -/
def unrecorded (context : Context (Recorded σ)) : Context σ :=
  ⟨context.limit, context.rolls, context.roller.roller⟩

end Context

/-- A roller that gives the highest face and counts how often it was asked. -/
structure Highest where
  asked : Nat := 0
  deriving DecidableEq

instance : Roller Highest where
  draw sides roller := (UInt32.ofNat sides.count, ⟨roller.asked + 1⟩)

namespace Dice

open RollM

variable {σ τ : Type}

/-- A relation between computations with two rollers that is kept when they are put together. -/
structure Composition (related : ∀ α : Type, RollM σ α → RollM τ α → Prop) : Prop where
  pure {α : Type} (a : α) : related α (pure a) (pure a)
  throw {α : Type} (error : RollError) : related α (throw error) (throw error)
  bind {α β : Type} {first : RollM σ α} {other : RollM τ α} {next : α → RollM σ β}
    {after : α → RollM τ β} : related α first other → (∀ a, related β (next a) (after a)) →
    related β (first >>= next) (other >>= after)

variable {related : ∀ α : Type, RollM σ α → RollM τ α → Prop} {operands : List (RollM σ Values)}
  {others : List (RollM τ Values)}

namespace Composition

theorem operand (composition : Composition related)
    (each : List.Forall₂ (related Values) operands others) (index : Nat) :
    related Values (operand operands index) (operand others index) := by
  have alike : Option.Rel (related Values) operands[index]? others[index]? := by
    induction each generalizing index with
    | nil => exact .none
    | cons first _ inductionHypothesis =>
      cases index with
      | zero => exact .some first
      | succ index => exact inductionHypothesis index
  simp only [DiceCalculator.operand]
  generalize operands[index]? = asked, others[index]? = askedToo at alike ⊢
  cases alike with
  | some both => exact both
  | none => exact composition.throw _

theorem firstOf (composition : Composition related)
    (each : List.Forall₂ (related Values) operands others) (index : Nat) :
    related Value (firstOf operands index) (firstOf others index) :=
  composition.bind (composition.operand each index) fun _ => composition.pure _

theorem addRounds (composition : Composition related) {round : RollM σ Value}
    {other : RollM τ Value} (each : related Value round other) (n : Nat) (total : Value) :
    related Value (addRounds round n total) (addRounds other n total) := by
  induction n generalizing total with
  | zero => exact composition.pure total
  | succ n inductionHypothesis =>
    exact composition.bind each fun value => inductionHypothesis (total + value)

/-- All actions but two only put their operands together. -/
theorem run [Roller σ] [Roller τ] (composition : Composition related) {action : Action}
    (node : Tree Action) (notDie : action ≠ .die) (notRounds : action ≠ .rounds)
    (each : List.Forall₂ (related Values) operands others) :
    related Values (action.run node operands) (action.run node others) := by
  have first := composition.firstOf each
  cases action with
  | die => exact absurd rfl notDie
  | rounds => exact absurd rfl notRounds
  | sign | name | number => exact composition.pure _
  | same => exact composition.operand each 0
  | assign => exact composition.operand each 1
  | negate => exact composition.bind (first 0) fun _ => composition.pure _
  | scale | combine =>
    refine composition.bind (first 0) fun left => ?_
    refine composition.bind (first 1) fun sign => ?_
    exact composition.bind (first 2) fun right => composition.pure _
  | list =>
    refine composition.bind (composition.operand each 0) fun before => ?_
    exact composition.bind (composition.operand each 1) fun after => composition.pure _

section Trees

variable {meaning : Meaning Action σ} {otherMeaning : Meaning Action τ}

mutual

/-- Evaluations by two meanings are related if the meanings are. -/
theorem evaluate (composition : Composition related)
    (run : ∀ action node operands others, List.Forall₂ (related Values) operands others →
      related Values (meaning action node operands) (otherMeaning action node others))
    (tree : Tree Action) : related Values (tree.evaluate meaning) (tree.evaluate otherMeaning) :=
  match tree with
  | .leaf action token => run action (.leaf action token) [] [] .nil
  | .literal token => composition.throw (.noValue token.text)
  | .branch action parts =>
    run action (.branch action parts) _ _ (composition.evaluateOf run parts)

theorem evaluateOf (composition : Composition related)
    (run : ∀ action node operands others, List.Forall₂ (related Values) operands others →
      related Values (meaning action node operands) (otherMeaning action node others))
    (parts : List (Tree Action)) :
    List.Forall₂ (related Values) (Tree.evaluateOf meaning parts)
      (Tree.evaluateOf otherMeaning parts) :=
  match parts with
  | [] => .nil
  | tree :: rest => by
    rw [Tree.evaluateOf, Tree.evaluateOf]
    cases tree.isLiteral with
    | false => exact .cons (composition.evaluate run tree) (composition.evaluateOf run rest)
    | true => exact composition.evaluateOf run rest

end

end Trees

end Composition

variable [Roller σ] [Roller τ]

/-- A relation between computations with two rollers that is kept by all that an action does. -/
structure Simulation (related : ∀ α : Type, RollM σ α → RollM τ α → Prop) : Prop where
  pure {α : Type} (a : α) : related α (pure a) (pure a)
  throw {α : Type} (error : RollError) : related α (throw error) (throw error)
  announce (n : Nat) : related Unit (announce n) (announce n)
  rollDie (sides : Sides) : related Face (rollDie sides) (rollDie sides)
  bind {α β : Type} {first : RollM σ α} {other : RollM τ α} {next : α → RollM σ β}
    {after : α → RollM τ β} : related α first other → (∀ a, related β (next a) (after a)) →
    related β (first >>= next) (other >>= after)

namespace Simulation

theorem composition (simulation : Simulation related) : Composition related where
  pure := simulation.pure
  throw := simulation.throw
  bind := simulation.bind

theorem run (simulation : Simulation related) (action : Action) (node : Tree Action)
    (each : List.Forall₂ (related Values) operands others) :
    related Values (action.run node operands) (action.run node others) := by
  have composition := simulation.composition
  have first := composition.firstOf each
  cases action with
  | die =>
    simp only [Action.run]
    cases sidesOf? node.text with
    | none => exact simulation.pure _
    | some sides => exact simulation.bind (simulation.rollDie sides) fun _ => simulation.pure _
  | rounds =>
    refine simulation.bind (first 0) fun count => ?_
    refine simulation.bind (simulation.announce _) fun _ => ?_
    exact simulation.bind (composition.addRounds (first 1) _ 0) fun _ => simulation.pure _
  | _ => exact composition.run node (by decide) (by decide) each

/-- The two evaluations of a tree are related. -/
theorem evaluate (simulation : Simulation related) (tree : Tree Action) :
    related Values (evaluate tree) (evaluate tree) :=
  simulation.composition.evaluate (fun action node _ _ => simulation.run action node) tree

end Simulation

theorem simulation_unrecorded :
    Simulation fun α (first : RollM (Recorded σ) α) (other : RollM σ α) => ∀ context,
      other.runIn context.unrecorded =
        ((first.runIn context).1, (first.runIn context).2.unrecorded) where
  pure _ _ := rfl
  throw _ _ := rfl
  announce n context := by
    simp only [announce, runIn_request]
    rfl
  rollDie sides context := by
    simp only [runIn_rollDie]
    have exceeded : (context.unrecorded.count 1).isExceeded = (context.count 1).isExceeded := rfl
    rw [exceeded]
    cases (context.count 1).isExceeded <;> rfl
  bind := by
    intro α β first other next after same each context
    rw [runIn_bind, runIn_bind, same context]
    rcases first.runIn context with ⟨error | a, later⟩
    · rfl
    · exact each a later

/-- A roller that records its draws leads to the same outcome and the same context. -/
theorem runIn_unrecorded (tree : Tree Action) (context : Context (Recorded σ)) :
    (evaluate tree).runIn context.unrecorded =
      (((evaluate tree).runIn context).1, ((evaluate tree).runIn context).2.unrecorded) :=
  simulation_unrecorded.evaluate tree context

/-- The draws of an evaluation, in order. -/
def draws (tree : Tree Action) (context : Context σ) : List Draw :=
  ((evaluate tree).runIn context.recorded).2.roller.draws

end Dice

end DiceCalculator
