import DiceCalculator.Proofs.Evaluation.Simulation
import Mathlib.Tactic.Common

/-!
# Ledgers

A ledger tells what happened in a context: each request with what came of it
and the count after it, each round of a repetition that was begun, and each
reset. It is kept beside the roller, and keeping it changes nothing else. So
what a ledger says holds of the evaluation without one.
-/

namespace DiceCalculator

variable {α β σ : Type}

/-- What may be asked of a context. -/
inductive Request where
  | die (sides : Sides)
  | rounds (n : Nat)
  deriving DecidableEq

namespace Request

/-- What the request adds to the count. -/
def cost : Request → Nat
  | .die _ => 1
  | .rounds n => n

/-- The dice to be drawn if the request is granted. -/
def dice : Request → List Sides
  | .die sides => [sides]
  | .rounds _ => []

end Request

inductive Entry where
  /-- A request, the faces it was given or its error, and the count after it. -/
  | served (request : Request) (outcome : Except RollError (List Face)) (rolls : Nat)
  /-- A round of a repetition that was begun. -/
  | round
  | reset

namespace Entry

/-- What was asked for, whether it was granted or not. -/
def asked : Entry → Nat
  | .served request _ _ => request.cost
  | _ => 0

/-- What was asked for and granted. -/
def granted : Entry → Nat
  | .served request (.ok _) _ => request.cost
  | _ => 0

/-- The dice that were asked for and granted. -/
def dice : Entry → List Sides
  | .served request (.ok _) _ => request.dice
  | _ => []

def faces : Entry → List Face
  | .served _ (.ok faces) _ => faces
  | _ => []

def rounds : Entry → Nat
  | .round => 1
  | _ => 0

def isRefused : Entry → Bool
  | .served _ (.error _) _ => true
  | _ => false

def isReset : Entry → Bool
  | .reset => true
  | _ => false

end Entry

/-- A roller, and what was done with it so far, the oldest first. -/
structure Ledger (σ : Type) where
  roller : σ
  entries : List Entry := []

instance [Roller σ] : Roller (Ledger σ) where
  draw sides ledger :=
    let (face, roller) := Roller.draw sides ledger.roller
    (face, { ledger with roller })

namespace Context

/-- The context with a ledger kept from now on. -/
def kept (context : Context σ) : Context (Ledger σ) :=
  ⟨context.limit, context.rolls, ⟨context.roller, []⟩⟩

/-- The context with the roller beside which the ledger is kept. -/
def unkept (context : Context (Ledger σ)) : Context σ :=
  ⟨context.limit, context.rolls, context.roller.roller⟩

def note (context : Context (Ledger σ)) (entry : Entry) : Context (Ledger σ) :=
  { context with roller.entries := context.roller.entries ++ [entry] }

end Context

namespace Ledger

open RollM

/-- Serves a request and notes what came of it. -/
def observe (request : Request) (faces : α → List Face) (serve : RollM (Ledger σ) α) :
    RollM (Ledger σ) α := fun context =>
  let (outcome, later) := serve.runIn context
  (outcome, later.note (.served request (outcome.map faces) later.rolls))

def rollDie [Roller σ] (sides : Sides) : RollM (Ledger σ) Face :=
  observe (.die sides) (fun face => [face]) (RollM.rollDie sides)

def announce (n : Nat) : RollM (Ledger σ) Unit :=
  observe (.rounds n) (fun _ => []) (RollM.announce n)

/-- Notes that a round begins. -/
def beginRound : RollM (Ledger σ) Unit :=
  modify (·.note .round)

def reset : RollM (Ledger σ) Unit :=
  modify (·.reset.note .reset)

end Ledger

namespace Dice

open RollM

variable [Roller σ]

/-- Runs an action and notes what it asks for and which rounds it begins. -/
def Action.runKept (action : Action) (node : Tree Action)
    (operands : List (RollM (Ledger σ) Values)) : RollM (Ledger σ) Values :=
  match action with
  | .die =>
    match sidesOf? node.text with
    | none => pure (.single 0)
    | some sides => do
      let face ← Ledger.rollDie sides
      return .single (.clamp face.toNat)
  | .rounds => do
    let count ← firstOf operands 0
    Ledger.announce count.toInt.toNat
    let round := do
      Ledger.beginRound
      firstOf operands 1
    return .single (← addRounds round count.toInt.toNat 0)
  | action => action.run node operands

theorem Action.runKept_eq_run {action : Action} {node : Tree Action}
    {operands : List (RollM (Ledger σ) Values)} (notDie : action ≠ .die)
    (notRounds : action ≠ .rounds) : action.runKept node operands = action.run node operands := by
  cases action with
  | die => exact absurd rfl notDie
  | rounds => exact absurd rfl notRounds
  | _ => rfl

/-- The evaluation of a tree with a ledger of it. -/
def evaluateKept (tree : Tree Action) : RollM (Ledger σ) Values :=
  tree.evaluate Action.runKept

/-- A relation between computations with a ledger and computations without that is kept by all
that an action does. -/
structure Bookkeeping (related : ∀ α : Type, RollM (Ledger σ) α → RollM σ α → Prop) : Prop
    extends Composition related where
  rollDie (sides : Sides) : related Face (Ledger.rollDie sides) (rollDie sides)
  rounds (n : Nat) {round : RollM (Ledger σ) Value} {other : RollM σ Value} :
    related Value round other →
    related Value
      (do
        Ledger.announce n
        addRounds (do Ledger.beginRound; round) n 0)
      (do
        announce n
        addRounds other n 0)

namespace Bookkeeping

variable {related : ∀ α : Type, RollM (Ledger σ) α → RollM σ α → Prop}

theorem run (bookkeeping : Bookkeeping related) (action : Action) (node : Tree Action)
    {operands : List (RollM (Ledger σ) Values)} {others : List (RollM σ Values)}
    (each : List.Forall₂ (related Values) operands others) :
    related Values (action.runKept node operands) (action.run node others) := by
  have first := bookkeeping.firstOf each
  by_cases die : action = .die
  · subst die
    simp only [Action.runKept, Action.run]
    cases sidesOf? node.text with
    | none => exact bookkeeping.pure _
    | some sides => exact bookkeeping.bind (bookkeeping.rollDie sides) fun _ => bookkeeping.pure _
  · by_cases rounds : action = .rounds
    · subst rounds
      refine bookkeeping.bind (first 0) fun count => ?_
      have whole := bookkeeping.bind (bookkeeping.rounds count.toInt.toNat (first 1)) fun total =>
        bookkeeping.pure (Values.single total)
      simp only [bind_assoc] at whole ⊢
      exact whole
    · rw [Action.runKept_eq_run die rounds]
      exact bookkeeping.toComposition.run node die rounds each

/-- The evaluation of a tree with a ledger is related to the one without. -/
theorem evaluate (bookkeeping : Bookkeeping related) (tree : Tree Action) :
    related Values (evaluateKept tree) (evaluate tree) :=
  bookkeeping.toComposition.evaluate (fun action node _ _ => bookkeeping.run action node) tree

end Bookkeeping

/-- The computation with a ledger does as the one without. -/
def Follows (kept : RollM (Ledger σ) α) (computation : RollM σ α) : Prop :=
  ∀ context, computation.runIn context.unkept =
    ((kept.runIn context).1, (kept.runIn context).2.unkept)

namespace Follows

omit [Roller σ] in
theorem bind {first : RollM (Ledger σ) α} {other : RollM σ α} {next : α → RollM (Ledger σ) β}
    {after : α → RollM σ β} (follows : Follows first other)
    (each : ∀ a, Follows (next a) (after a)) : Follows (first >>= next) (other >>= after) := by
  intro context
  rw [runIn_bind, runIn_bind, follows context]
  rcases first.runIn context with ⟨error | a, later⟩
  · rfl
  · exact each a later

omit [Roller σ] in
theorem composition : Composition fun α => @Follows α σ where
  pure _ _ := rfl
  throw _ _ := rfl
  bind := bind

omit [Roller σ] in
theorem observe {serve : RollM (Ledger σ) α} {computation : RollM σ α}
    (follows : Follows serve computation) (request : Request) (faces : α → List Face) :
    Follows (Ledger.observe request faces serve) computation :=
  follows

omit [Roller σ] in
theorem request (n : Nat) :
    Follows (RollM.request n : RollM (Ledger σ) Unit) (RollM.request n) := by
  intro context
  rw [runIn_request, runIn_request]
  rfl

omit [Roller σ] in
theorem announce (n : Nat) : Follows (Ledger.announce n : RollM (Ledger σ) Unit) (announce n) :=
  observe (request n) _ _

omit [Roller σ] in
theorem beginRound {round : RollM (Ledger σ) α} {computation : RollM σ α}
    (follows : Follows round computation) :
    Follows (do Ledger.beginRound; round) computation :=
  fun context => follows (context.note .round)

theorem bookkeeping : Bookkeeping fun α => @Follows α σ where
  toComposition := composition
  rollDie sides := by
    have draw : Follows (RollM.draw sides : RollM (Ledger σ) Face) (RollM.draw sides) :=
      fun _ => rfl
    exact observe ((request 1).bind fun _ => draw) _ _
  rounds n _ _ follows :=
    bind (announce n) fun _ => composition.addRounds (beginRound follows) n 0

end Follows

/-- Keeping a ledger leads to the same outcome and the same context. -/
theorem runIn_unkept (tree : Tree Action) (context : Context (Ledger σ)) :
    (evaluate tree).runIn context.unkept =
      (((evaluateKept tree).runIn context).1, ((evaluateKept tree).runIn context).2.unkept) :=
  Follows.bookkeeping.evaluate tree context

end Dice

end DiceCalculator
