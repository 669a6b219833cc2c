import DiceCalculator.Proofs.Evaluation.Simulation
import Mathlib.Logic.Relation
import Mathlib.Tactic.Common

/-!
# Evaluation within a limit

A limit on the count cuts an evaluation off and does nothing else. The run with
the limit and the one without are the same as long as the count stays within
it, because the count never goes back; from the first request beyond it the one
has failed while the other goes on, and all that the other does to the roller
from there is to draw more faces from it.
-/

namespace DiceCalculator

open RollM

variable {α β σ : Type} [Roller σ]

/-- The one state of a roller is what a draw leaves of the other. -/
def Roller.Drawn (roller later : σ) : Prop :=
  ∃ sides, later = (Roller.draw sides roller).2

/-- The one state of a roller comes from the other by draws. -/
abbrev Roller.Reaches : σ → σ → Prop :=
  Relation.ReflTransGen Roller.Drawn

theorem Roller.Reaches.draws_prefix_draws {recorded later : Recorded σ}
    (reaches : Roller.Reaches recorded later) : recorded.draws <+: later.draws := by
  induction reaches with
  | refl => exact List.prefix_rfl
  | tail _ drawn inductionHypothesis =>
    obtain ⟨sides, rfl⟩ := drawn
    rw [Recorded.draws_draw]
    exact inductionHypothesis.trans (List.prefix_append ..)

/-- What every computation leaves of a context: the same limit, a count that has moved towards the
greatest one or stands still, and a roller that was drawn from. -/
structure Context.Advances (context later : Context σ) : Prop where
  limit_eq : later.limit = context.limit
  least_le : min context.rolls greatestCount ≤ later.rolls
  le_greatest : later.rolls ≤ max context.rolls greatestCount
  reaches : Roller.Reaches context.roller later.roller

namespace Context.Advances

variable {context middle later : Context σ}

theorem refl (context : Context σ) : context.Advances context where
  limit_eq := rfl
  least_le := Nat.min_le_left ..
  le_greatest := Nat.le_max_left ..
  reaches := .refl

theorem trans (first : context.Advances middle) (second : middle.Advances later) :
    context.Advances later where
  limit_eq := second.limit_eq.trans first.limit_eq
  least_le := by
    have := first.least_le
    have := second.least_le
    omega
  le_greatest := by
    have := first.le_greatest
    have := second.le_greatest
    omega
  reaches := first.reaches.trans second.reaches

theorem count (context : Context σ) (n : Nat) : context.Advances (context.count n) where
  limit_eq := rfl
  least_le := by
    change _ ≤ min greatestCount (context.rolls + n)
    omega
  le_greatest := by
    change min greatestCount (context.rolls + n) ≤ _
    omega
  reaches := .refl

theorem draw (context : Context σ) (sides : Sides) :
    context.Advances { context with roller := (Roller.draw sides context.roller).2 } where
  limit_eq := rfl
  least_le := Nat.min_le_left ..
  le_greatest := Nat.le_max_left ..
  reaches := .single ⟨sides, rfl⟩

/-- Once the count is beyond a limit it was within, it stays beyond. -/
theorem lt_rolls {limit : Nat} (first : context.Advances middle) (second : middle.Advances later)
    (within : context.rolls ≤ limit) (beyond : limit < middle.rolls) : limit < later.rolls := by
  have := first.le_greatest
  have := second.least_le
  omega

end Context.Advances

namespace RollM

/-- The context with a limit does as the one without, until the count goes beyond. -/
structure CutsOff (limit : Nat) (computation : RollM σ α) : Prop where
  advances (context : Context σ) : context.Advances (computation.runIn context).2
  within {rolls : Nat} {roller : σ} : rolls ≤ limit →
    (computation.runIn ⟨none, rolls, roller⟩).2.rolls ≤ limit →
    computation.runIn ⟨some limit, rolls, roller⟩ =
      ((computation.runIn ⟨none, rolls, roller⟩).1,
        { (computation.runIn ⟨none, rolls, roller⟩).2 with limit := some limit })
  beyond {rolls : Nat} {roller : σ} : rolls ≤ limit →
    limit < (computation.runIn ⟨none, rolls, roller⟩).2.rolls →
    (computation.runIn ⟨some limit, rolls, roller⟩).1 = .error .tooManyRolls ∧
      Roller.Reaches (computation.runIn ⟨some limit, rolls, roller⟩).2.roller
        (computation.runIn ⟨none, rolls, roller⟩).2.roller

namespace CutsOff

variable {limit : Nat}

theorem pure (a : α) : CutsOff limit (pure a : RollM σ α) where
  advances := .refl
  within _ _ := rfl
  beyond within beyond := absurd within (Nat.not_le.2 beyond)

theorem throw (error : RollError) : CutsOff limit (throw error : RollM σ α) where
  advances := .refl
  within _ _ := rfl
  beyond within beyond := absurd within (Nat.not_le.2 beyond)

theorem request (n : Nat) : CutsOff limit (request n : RollM σ Unit) where
  advances context := by
    rw [runIn_request]
    exact .count context n
  within := by
    intro rolls roller _ within
    rw [runIn_request] at within
    have granted : ¬limit < min Context.greatestCount (rolls + n) := Nat.not_lt.2 within
    simp only [runIn_request, Context.count, Context.isExceeded, Option.any_none, Option.any_some,
      granted, decide_false, Bool.false_eq_true, ↓reduceIte]
  beyond := by
    intro rolls roller _ beyond
    rw [runIn_request] at beyond
    have refused : limit < min Context.greatestCount (rolls + n) := beyond
    simp only [runIn_request, Context.count, Context.isExceeded, Option.any_some, refused,
      decide_true, ↓reduceIte, true_and]
    exact .refl

theorem draw (sides : Sides) : CutsOff limit (draw sides : RollM σ Face) where
  advances context := .draw context sides
  within _ _ := rfl
  beyond within beyond := absurd within (Nat.not_le.2 beyond)

theorem bind {first : RollM σ α} {next : α → RollM σ β} (cut : CutsOff limit first)
    (each : ∀ a, CutsOff limit (next a)) : CutsOff limit (first >>= next) where
  advances context := by
    have before := cut.advances context
    cases run : first.runIn context with
    | mk outcome middle =>
      rw [run] at before
      cases outcome with
      | error error =>
        rw [runIn_bind_of_error run]
        exact before
      | ok a =>
        rw [runIn_bind_of_ok run]
        exact before.trans ((each a).advances middle)
  within := by
    intro rolls roller start within
    have before := cut.advances ⟨none, rolls, roller⟩
    have same (within : (first.runIn ⟨none, rolls, roller⟩).2.rolls ≤ limit) :=
      cut.within start within
    cases run : first.runIn ⟨none, rolls, roller⟩ with
    | mk outcome middle =>
      rw [run] at before same
      cases outcome with
      | error error =>
        rw [runIn_bind_of_error run] at within ⊢
        exact runIn_bind_of_error (same within)
      | ok a =>
        rw [runIn_bind_of_ok run] at within ⊢
        have middleWithin : middle.rolls ≤ limit := by
          by_contra beyond
          have := before.lt_rolls ((each a).advances middle) start (Nat.not_le.1 beyond)
          omega
        obtain ⟨none', middleRolls, middleRoller⟩ := middle
        obtain rfl : none' = none := before.limit_eq
        rw [runIn_bind_of_ok (same middleWithin)]
        exact (each a).within middleWithin within
  beyond := by
    intro rolls roller start beyond
    have before := cut.advances ⟨none, rolls, roller⟩
    have same (within : (first.runIn ⟨none, rolls, roller⟩).2.rolls ≤ limit) :=
      cut.within start within
    have stops (beyond : limit < (first.runIn ⟨none, rolls, roller⟩).2.rolls) :=
      cut.beyond start beyond
    cases run : first.runIn ⟨none, rolls, roller⟩ with
    | mk outcome middle =>
      rw [run] at before same stops
      by_cases middleWithin : middle.rolls ≤ limit
      · cases outcome with
        | error error =>
          rw [runIn_bind_of_error run] at beyond
          exact absurd middleWithin (Nat.not_le.2 beyond)
        | ok a =>
          rw [runIn_bind_of_ok run] at beyond ⊢
          obtain ⟨none', middleRolls, middleRoller⟩ := middle
          obtain rfl : none' = none := before.limit_eq
          rw [runIn_bind_of_ok (same middleWithin)]
          exact (each a).beyond middleWithin beyond
      · -- The first part has failed already; the second only draws on from there.
        obtain ⟨error_eq, reaches⟩ := stops (Nat.not_le.1 middleWithin)
        have stopped : first.runIn ⟨some limit, rolls, roller⟩ =
            (.error .tooManyRolls, (first.runIn ⟨some limit, rolls, roller⟩).2) :=
          Prod.ext error_eq rfl
        rw [runIn_bind_of_error stopped]
        refine ⟨rfl, ?_⟩
        cases outcome with
        | error error =>
          rw [runIn_bind_of_error run]
          exact reaches
        | ok a =>
          rw [runIn_bind_of_ok run]
          exact reaches.trans ((each a).advances middle).reaches

theorem evaluate (limit : Nat) (tree : Tree Dice.Action) :
    CutsOff limit (Dice.evaluate tree : RollM σ Values) := by
  have simulation : Dice.Simulation fun α (computation _ : RollM σ α) =>
      CutsOff limit computation :=
    { pure := fun a => .pure a
      throw := fun error => .throw error
      announce := fun n => .request n
      rollDie := fun sides => (CutsOff.request 1).bind fun _ => .draw sides
      bind := fun cut each => cut.bind each }
  exact simulation.evaluate tree

end CutsOff

end RollM

namespace Dice

/-- As long as the count without a limit ends within the limit, evaluation with it comes to the same
outcome, count and roller. Otherwise it fails, and has drawn the first of the faces only that are
drawn without it. So what succeeds within a limit succeeds in the same way within a larger one. -/
theorem evaluate_limited (tree : Tree Action) (limit rolls : Nat) (roller : σ)
    (start : rolls ≤ limit) :
    let free := (evaluate tree).runIn ⟨none, rolls, roller⟩
    let limited := (evaluate tree).runIn ⟨some limit, rolls, roller⟩
    (free.2.rolls ≤ limit → limited = (free.1, { free.2 with limit := some limit })) ∧
    (limit < free.2.rolls → limited.1 = .error .tooManyRolls ∧
      draws tree ⟨some limit, rolls, roller⟩ <+: draws tree ⟨none, rolls, roller⟩) ∧
    ∀ larger values later, limit ≤ larger → limited = (.ok values, later) →
      (evaluate tree).runIn ⟨some larger, rolls, roller⟩ =
        (.ok values, { later with limit := some larger }) := by
  intro free limited
  have cut := CutsOff.evaluate limit tree (σ := σ)
  refine ⟨cut.within start, ?_, ?_⟩
  · intro beyond
    have recorded := CutsOff.evaluate (σ := Recorded σ) limit tree
    have beyondToo :
        limit < ((evaluate tree).runIn (⟨none, rolls, roller⟩ : Context σ).recorded).2.rolls := by
      have same := runIn_unrecorded tree (⟨none, rolls, roller⟩ : Context σ).recorded
      have count := congrArg (fun run => run.2.rolls) same
      exact Nat.lt_of_lt_of_eq beyond count
    exact ⟨(cut.beyond start beyond).1, (recorded.beyond start beyondToo).2.draws_prefix_draws⟩
  · intro larger values later more succeeds
    by_cases within : free.2.rolls ≤ limit
    · obtain ⟨ok_eq, rfl⟩ := Prod.mk.inj (succeeds.symm.trans (cut.within start within))
      have wider := (CutsOff.evaluate (σ := σ) larger tree).within (Nat.le_trans start more)
        (Nat.le_trans within more)
      rw [wider, ← ok_eq]
    · have fails := (cut.beyond start (Nat.not_le.1 within)).1
      cases (congrArg Prod.fst succeeds).symm.trans fails

/-- Three rolls of a die cost their announcement too: the fourth of the six requests is the last
that is granted here. -/
theorem evaluate_limited_three_dice :
    let three : Tree Action := .branch .same [.branch .same [.leaf .number ⟨.number, "3"⟩]]
    let die : Tree Action := .branch .same [.branch .same [.leaf .die ⟨.dice, "d6"⟩]]
    let tree : Tree Action := .branch .rounds [three, die]
    let free := (evaluate tree).runIn ⟨none, 0, (⟨0⟩ : Highest)⟩
    let limited := (evaluate tree).runIn ⟨some 4, 0, (⟨0⟩ : Highest)⟩
    0 ≤ 4 ∧ free.2.rolls = 6 ∧
    (free.2.rolls ≤ 4 → limited = (free.1, { free.2 with limit := some 4 })) ∧
    (4 < free.2.rolls → limited.1 = .error .tooManyRolls ∧
      draws tree ⟨some 4, 0, (⟨0⟩ : Highest)⟩ <+: draws tree ⟨none, 0, (⟨0⟩ : Highest)⟩) ∧
    ∀ larger values later, 4 ≤ larger → limited = (.ok values, later) →
      (evaluate tree).runIn ⟨some larger, 0, ⟨0⟩⟩ =
        (.ok values, { later with limit := some larger }) := by
  intro three die tree free limited
  have whole := evaluate_limited tree 4 0 (⟨0⟩ : Highest) (by decide)
  exact ⟨by decide, by decide +kernel, whole⟩

end Dice

end DiceCalculator
