import DiceCalculator.Proofs.Evaluation.Counting

/-!
# Whatever is done with a context

Dice may be rolled and rounds announced one at a time, trees may be evaluated,
and the count may be reset, in any order and also after a failure. All of these
are made of the steps that keep the balance of a ledger, so the count is exact
at the end of every such sequence and after each request within it.
-/

namespace DiceCalculator

variable {α σ : Type}

namespace RollM

/-- Runs computations one after the other and goes on after errors. -/
def runAll : List (RollM σ α) → Context σ → List (Except RollError α) × Context σ
  | [], context => ([], context)
  | computation :: rest, context =>
    let (outcome, context) := computation.runIn context
    let (outcomes, context) := runAll rest context
    (outcome :: outcomes, context)

theorem Maintains.runAll {holds : Context σ → Prop} {computations : List (RollM σ α)}
    (each : ∀ computation ∈ computations, Maintains holds computation) {context : Context σ}
    (before : holds context) : holds (runAll computations context).2 := by
  induction computations generalizing context with
  | nil => exact before
  | cons computation rest inductionHypothesis =>
    obtain ⟨first, others⟩ := List.forall_mem_cons.1 each
    exact inductionHypothesis others (first context before)

end RollM

/-- The computations with a ledger do as the ones without, however many there are. -/
theorem Dice.Follows.runAll {kept : List (RollM (Ledger σ) α)} {computations : List (RollM σ α)}
    (each : List.Forall₂ Follows kept computations) (context : Context (Ledger σ)) :
    RollM.runAll computations context.unkept =
      ((RollM.runAll kept context).1, (RollM.runAll kept context).2.unkept) := by
  induction each generalizing context with
  | nil => rfl
  | cons follows _ inductionHypothesis =>
    simp only [RollM.runAll, follows context, inductionHypothesis]

/-- What may be done with a context. -/
inductive Operation where
  | rollDie (sides : Sides)
  | announce (n : Nat)
  | reset
  | evaluate (tree : Tree Dice.Action)

inductive Reply where
  | face (face : Face)
  | done
  | values (values : Values)

namespace Operation

open Context Ledger RollM

variable [Roller σ]

def run : Operation → RollM σ Reply
  | .rollDie sides => return .face (← RollM.rollDie sides)
  | .announce n => do
    RollM.announce n
    return .done
  | .reset => do
    modify Context.reset
    return .done
  | .evaluate tree => return .values (← Dice.evaluate tree)

/-- Runs an operation with a ledger of it. -/
def runKept : Operation → RollM (Ledger σ) Reply
  | .rollDie sides => return .face (← Ledger.rollDie sides)
  | .announce n => do
    Ledger.announce n
    return .done
  | .reset => do
    Ledger.reset
    return .done
  | .evaluate tree => return .values (← Dice.evaluateKept tree)

theorem follows (operation : Operation) :
    Dice.Follows (operation.runKept : RollM (Ledger σ) Reply) operation.run := by
  have bookkeeping := Dice.Follows.bookkeeping (σ := σ)
  cases operation with
  | rollDie sides => exact (bookkeeping.rollDie sides).bind fun _ => bookkeeping.pure _
  | announce n => exact (Dice.Follows.announce n).bind fun _ => bookkeeping.pure _
  | reset => exact fun _ => rfl
  | evaluate tree => exact (bookkeeping.evaluate tree).bind fun _ => bookkeeping.pure _

theorem maintains (operation : Operation) {holds : Context (Ledger σ) → Prop}
    (step : ∀ {context entry later}, holds context → Ledger.Step context entry later →
      holds later) : operation.runKept.Maintains holds := by
  have bookkeeping := RollM.Maintains.bookkeeping step
  cases operation with
  | rollDie sides => exact (bookkeeping.rollDie sides).bind fun _ => bookkeeping.pure _
  | announce n => exact (RollM.Maintains.announce step n).bind fun _ => bookkeeping.pure _
  | reset => exact (RollM.Maintains.reset step).bind fun _ => bookkeeping.pure _
  | evaluate tree => exact (bookkeeping.evaluate tree).bind fun _ => bookkeeping.pure _

/-- Whatever is done with a context, in whatever order and after whatever errors: its count is what
was asked for since the last reset, granted or not. A request is refused if and only if the count
with it is beyond the limit, so after a refusal every other is refused too until the next reset. The
roller has drawn the dice that were granted, one after the other, and no others; since the last
reset these are no more than the limit, unless the limit is the greatest count there is. -/
theorem runAll_counts (limit : Option Nat) (roller : σ) (operations : List Operation) :
    let kept := runAll (operations.map runKept) (.fresh limit ⟨roller, []⟩)
    let entries := kept.2.roller.entries
    runAll (operations.map run) (.fresh limit roller) = (kept.1, kept.2.unkept) ∧
    kept.2.rolls = min greatestCount (asked entries) ∧
    (∀ earlier request outcome rolls, earlier ++ [.served request outcome rolls] <+: entries →
      Settles limit earlier request outcome rolls) ∧
    Roller.drawAll (entries.flatMap Entry.dice) roller =
      (entries.flatMap Entry.faces, kept.2.roller.roller) ∧
    ∀ most, limit = some most → most < greatestCount →
      ((sinceReset entries).flatMap Entry.faces).length ≤ most := by
  intro kept entries
  have follows : List.Forall₂ Dice.Follows (operations.map (runKept (σ := σ)))
      (operations.map run) := by
    simp only [List.forall₂_map_left_iff, List.forall₂_map_right_iff, List.forall₂_same]
    exact fun operation _ => operation.follows
  have balances : Balances limit roller kept.2 := by
    refine RollM.Maintains.runAll ?_ (.start limit roller)
    rintro computation isKept
    obtain ⟨operation, _, rfl⟩ := List.mem_map.1 isKept
    exact operation.maintains .step
  have drawn_le : ((sinceReset entries).flatMap Entry.faces).length ≤ granted entries :=
    length_faces_le_granted _ balances.faces_le
  refine ⟨Dice.Follows.runAll follows (.fresh limit ⟨roller, []⟩), balances.rolls_eq,
    fun _ _ _ _ => balances.settles, balances.drawAll_eq, fun most limited below => ?_⟩
  have granted_le : min greatestCount (granted entries) ≤ most := balances.granted_le limited
  omega

/-- Rounds and dice count alike: after nine rounds and a die one more round is beyond ten. -/
theorem runAll_counts_announced :
    let d6 : Sides := { count := 6 }
    let kept := runAll ([announce 9, rollDie d6, announce 1].map runKept)
      (.fresh (some 10) ⟨({} : Highest), []⟩)
    Settles (some 10) [.served (.rounds 9) (.ok []) 9, .served (.die d6) (.ok [6]) 10] (.rounds 1)
      (.error .tooManyRolls) 11 ∧
    10 < greatestCount ∧
    ((sinceReset kept.2.roller.entries).flatMap Entry.faces).length ≤ 10 := by
  intro d6 kept
  have whole := runAll_counts (some 10) ({} : Highest) [.announce 9, .rollDie d6, .announce 1]
  have below : 10 < greatestCount := by decide
  exact ⟨whole.2.2.1 _ _ _ _ ⟨[], rfl⟩, below, whole.2.2.2.2 10 rfl below⟩

section GreatestLimit

variable {context : Context (Ledger σ)}

/-- With the greatest count as the limit, a die that is asked for is drawn. -/
theorem exists_face_of_greatest (limited : context.limit = some greatestCount) (sides : Sides) :
    let later := ((rollDie sides).runKept.runIn context).2
    later.limit = some greatestCount ∧ ∃ entry, ¬entry.isReset ∧ entry.faces.length = 1 ∧
      later.roller.entries = context.roller.entries ++ [entry] := by
  have step := Step.rollDie context sides
  have granted := step.not_refused limited
  simp only [runKept, runIn_bind]
  generalize (Ledger.rollDie sides).runIn context = run at step granted ⊢
  obtain ⟨error | face, later⟩ := run
  · exact absurd rfl granted
  · exact ⟨step.limit_eq.trans limited, .served (.die sides) (.ok [face]) later.rolls, nofun, rfl,
      step.entries_eq⟩

/-- However many dice are asked for with this limit, all of them are drawn. -/
theorem length_faces_replicate (limited : context.limit = some greatestCount) (sides : Sides)
    (n : Nat) :
    let kept := runAll ((List.replicate n (rollDie sides)).map runKept) context
    ((sinceReset kept.2.roller.entries).flatMap Entry.faces).length =
      ((sinceReset context.roller.entries).flatMap Entry.faces).length + n := by
  induction n generalizing context with
  | zero => rfl
  | succ n inductionHypothesis =>
    obtain ⟨limitedLater, entry, notReset, one, entries_eq⟩ :=
      exists_face_of_greatest limited sides
    have others := inductionHypothesis limitedLater
    simp only [entries_eq, sinceReset_concat, if_neg notReset, List.flatMap_append,
      List.length_append, List.flatMap_singleton, one] at others
    simp only [List.replicate_succ, List.map_cons, runAll]
    omega

/-- The greatest count as the limit permits any number of dice. -/
theorem runAll_greatest :
    let d6 : Sides := { count := 6 }
    let kept := runAll ((List.replicate (greatestCount + 1) (rollDie d6)).map runKept)
      (.fresh (some greatestCount) ⟨({} : Highest), []⟩)
    greatestCount < ((sinceReset kept.2.roller.entries).flatMap Entry.faces).length := by
  intro d6
  -- said of any number, so that the greatest count is not written out
  have drawn (n : Nat) : n <
      ((sinceReset (runAll ((List.replicate (n + 1) (rollDie d6)).map runKept)
        (.fresh (some greatestCount) ⟨({} : Highest), []⟩)).2.roller.entries).flatMap
          Entry.faces).length := by
    rw [length_faces_replicate rfl]
    simp [fresh]
  exact drawn greatestCount

end GreatestLimit

end Operation

end DiceCalculator
