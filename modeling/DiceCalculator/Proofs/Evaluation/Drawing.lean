import DiceCalculator.Proofs.Evaluation.Counting
import DiceCalculator.Proofs.Evaluation.Productions
import Mathlib.Algebra.Order.Ring.Int

/-!
# What computations draw

Without a limit nothing that is asked for is refused. Then a computation may
have its dice fixed: whatever the roller gives, it is asked for the same dice in
the same order, and what the computation comes to is told from their faces. The
dice of one computation after another are the dice of both in a row, and those
of a loop are those of its rounds. The same goes for the count: it is that of
the parts together, and no roller has a say in it.
-/

namespace DiceCalculator

variable {α β σ : Type}

/-- A product is as many sums, also where it is beyond a bound. -/
theorem Value.clamp_mul_add (k : Nat) (a : Value) :
    clamp (k * a.toInt) + a = clamp ((k + 1 : Nat) * a.toInt) := by
  have more : ((k + 1 : Nat) : Int) * a.toInt = k * a.toInt + a.toInt := by
    rw [Nat.cast_succ, add_one_mul]
  rw [add_eq, more]
  ext
  simp only [toInt_clamp]
  -- the product is on the side of zero where the value is
  rcases le_total 0 a.toInt with nonneg | nonpos
  · have := mul_nonneg (Int.natCast_nonneg k) nonneg
    omega
  · have := mul_nonpos_of_nonneg_of_nonpos (Int.natCast_nonneg k) nonpos
    omega

namespace Recorded

/-- The draws are the dice that were asked for, each with its face. -/
theorem draws_drawAll [Roller σ] (dice : List Sides) (recorded : Recorded σ) :
    (Roller.drawAll dice recorded).2.draws =
      recorded.draws ++ (dice.zip (Roller.drawAll dice recorded.roller).1).map fun die =>
        ⟨die.1, die.2⟩ := by
  induction dice generalizing recorded with
  | nil => exact (List.append_nil _).symm
  | cons sides dice inductionHypothesis =>
    rw [Roller.drawAll]
    simp only [inductionHypothesis, draws_draw, List.append_assoc]
    rfl

end Recorded

namespace RollM

/-- Without a limit the computation comes to this and leaves the roller so. -/
def ComesTo (computation : RollM σ α) (rolls : Nat) (roller : σ) (a : α) (later : σ) : Prop :=
  ∃ counted, computation.runIn ⟨none, rolls, roller⟩ = (.ok a, ⟨none, counted, later⟩)

theorem ComesTo.bind {computation : RollM σ α} {next : α → RollM σ β} {rolls : Nat}
    {roller middle later : σ} {a : α} {b : β} (first : ComesTo computation rolls roller a middle)
    (each : ∀ rolls, ComesTo (next a) rolls middle b later) :
    ComesTo (computation >>= next) rolls roller b later := by
  obtain ⟨counted, run⟩ := first
  obtain ⟨counted, runNext⟩ := each counted
  exact ⟨counted, (runIn_bind_of_ok run).trans runNext⟩

theorem ComesTo.leading {computation : RollM σ Values} {rolls : Nat} {roller later : σ}
    {values : Values} (comes : ComesTo computation rolls roller values later) :
    ComesTo (Dice.leading computation) rolls roller values.first later :=
  comes.bind fun rolls => ⟨rolls, rfl⟩

/-- It comes to one thing only. -/
theorem ComesTo.eq {computation : RollM σ α} {rolls : Nat} {roller later other : σ} {a b : α}
    (first : ComesTo computation rolls roller a later)
    (second : ComesTo computation rolls roller b other) : a = b ∧ later = other := by
  obtain ⟨_, run⟩ := first
  obtain ⟨_, runToo⟩ := second
  cases run.symm.trans runToo
  exact ⟨rfl, rfl⟩

/-- Without a limit the computation comes to something and takes the count up by as much as this, as
far as a count goes. -/
def Counts (n : Nat) (computation : RollM σ α) : Prop :=
  ∀ rolls roller, rolls ≤ Context.greatestCount → ∃ a later,
    computation.runIn ⟨none, rolls, roller⟩ =
      (.ok a, ⟨none, min Context.greatestCount (rolls + n), later⟩)

namespace Counts

variable {m n : Nat}

theorem pure (a : α) : Counts 0 (pure a : RollM σ α) := by
  intro rolls roller bounded
  rw [Nat.add_zero, Nat.min_eq_right bounded]
  exact ⟨a, roller, rfl⟩

theorem request (n : Nat) : Counts n (request n : RollM σ Unit) :=
  fun rolls roller _ => ⟨(), roller, runIn_request n ⟨none, rolls, roller⟩⟩

theorem rollDie [Roller σ] (sides : Sides) : Counts 1 (rollDie sides : RollM σ Face) :=
  fun rolls roller _ => ⟨_, _, runIn_rollDie sides ⟨none, rolls, roller⟩⟩

theorem bind {first : RollM σ α} {next : α → RollM σ β} (counts : Counts m first)
    (each : ∀ a, Counts n (next a)) : Counts (m + n) (first >>= next) := by
  intro rolls roller bounded
  obtain ⟨a, middle, run⟩ := counts rolls roller bounded
  obtain ⟨b, later, runNext⟩ := each a _ middle (Nat.min_le_left Context.greatestCount (rolls + m))
  have total : min Context.greatestCount (min Context.greatestCount (rolls + m) + n) =
      min Context.greatestCount (rolls + (m + n)) := by omega
  rw [total] at runNext
  exact ⟨b, later, (runIn_bind_of_ok run).trans runNext⟩

theorem map {f : α → β} {computation : RollM σ α} (counts : Counts n computation) :
    Counts n (do return f (← computation)) :=
  counts.bind fun a => pure (f a)

theorem leading {computation : RollM σ Values} (counts : Counts n computation) :
    Counts n (Dice.leading computation) :=
  counts.map

theorem addRounds {round : RollM σ Value} (counts : Counts n round) (k : Nat) (total : Value) :
    Counts (k * n) (Dice.addRounds round k total) := by
  induction k generalizing total with
  | zero =>
    rw [Nat.zero_mul]
    exact pure total
  | succ k inductionHypothesis =>
    rw [Nat.succ_mul, Nat.add_comm]
    exact counts.bind fun value => inductionHypothesis (total + value)

/-- What a computation comes to and what it counts are told of the same run. -/
theorem runIn_eq {computation : RollM σ α} (counts : Counts n computation) {rolls : Nat}
    (bounded : rolls ≤ Context.greatestCount) {roller later : σ} {a : α}
    (comes : ComesTo computation rolls roller a later) :
    computation.runIn ⟨none, rolls, roller⟩ =
      (.ok a, ⟨none, min Context.greatestCount (rolls + n), later⟩) := by
  obtain ⟨_, run⟩ := comes
  obtain ⟨b, middle, runToo⟩ := counts rolls roller bounded
  cases run.symm.trans runToo
  exact runToo

end Counts

variable [Roller σ]

/-- In any context without a limit the computation asks for these dice one after the other and for
nothing else, and its result has the property together with their faces. -/
def Asks (dice : List Sides) (holds : List Face → α → Prop) (computation : RollM σ α) : Prop :=
  ∀ rolls roller, ∃ a, ComesTo computation rolls roller a (Roller.drawAll dice roller).2 ∧
    holds (Roller.drawAll dice roller).1 a

namespace Asks

variable {dice more : List Sides} {holds weaker : List Face → α → Prop}
  {holdsAfter : List Face → β → Prop} {computation : RollM σ α}

theorem pure {a : α} (held : holds [] a) : Asks [] holds (pure a : RollM σ α) :=
  fun rolls _ => ⟨a, ⟨rolls, rfl⟩, held⟩

theorem request (n : Nat) : Asks [] (fun _ _ => True) (request n : RollM σ Unit) :=
  fun rolls roller => ⟨(), ⟨_, runIn_request n ⟨none, rolls, roller⟩⟩, trivial⟩

theorem rollDie (sides : Sides) :
    Asks [sides] (fun faces face => faces = [face]) (rollDie sides : RollM σ Face) :=
  fun rolls roller => ⟨_, ⟨_, runIn_rollDie sides ⟨none, rolls, roller⟩⟩, rfl⟩

theorem mono (asks : Asks dice holds computation)
    (each : ∀ faces a, faces.length = dice.length → holds faces a → weaker faces a) :
    Asks dice weaker computation := by
  intro rolls roller
  obtain ⟨a, comes, held⟩ := asks rolls roller
  exact ⟨a, comes, each _ _ (Roller.length_drawAll dice roller) held⟩

theorem bind {next : α → RollM σ β} (asks : Asks dice holds computation)
    (each : ∀ faces a, faces.length = dice.length → holds faces a →
      Asks more (fun later => holdsAfter (faces ++ later)) (next a)) :
    Asks (dice ++ more) holdsAfter (computation >>= next) := by
  intro rolls roller
  obtain ⟨a, ⟨middle, run⟩, held⟩ := asks rolls roller
  obtain ⟨b, ⟨later, runNext⟩, heldAfter⟩ :=
    each _ a (Roller.length_drawAll dice roller) held middle (Roller.drawAll dice roller).2
  rw [Roller.drawAll_append]
  exact ⟨b, ⟨later, (runIn_bind_of_ok run).trans runNext⟩, heldAfter⟩

theorem map {f : α → β} (asks : Asks dice holds computation)
    (each : ∀ faces a, faces.length = dice.length → holds faces a → holdsAfter faces (f a)) :
    Asks dice holdsAfter (do return f (← computation)) := by
  intro rolls roller
  obtain ⟨a, ⟨later, run⟩, held⟩ := asks rolls roller
  exact ⟨f a, ⟨later, runIn_bind_of_ok run⟩, each _ a (Roller.length_drawAll dice roller) held⟩

section Rounds

variable {round : RollM σ Value} {holds : List Face → Value → Prop}
  (asks : Asks dice holds round) (keeps : Nat → List Face → Value → Prop)
  (step : ∀ k before total faces value, keeps k before total → holds faces value →
    faces.length = dice.length → keeps (k + 1) (before ++ faces) (total + value))

include asks step

theorem addRounds_from (n : Nat) {k : Nat} {before : List Face} {total : Value}
    (start : keeps k before total) :
    Asks (List.replicate n dice).flatten (fun faces => keeps (k + n) (before ++ faces))
      (Dice.addRounds round n total) := by
  induction n generalizing k before total with
  | zero =>
    refine pure ?_
    rwa [List.append_nil]
  | succ n inductionHypothesis =>
    rw [List.replicate_succ, List.flatten_cons]
    refine asks.bind fun faces value length held => ?_
    refine (inductionHypothesis (step _ _ _ _ _ start held length)).mono fun later sum _ kept => ?_
    rwa [Nat.add_right_comm, List.append_assoc] at kept

/-- The dice of the rounds are drawn round by round, and what each round keeps holds in the end. -/
theorem addRounds (n : Nat) (start : keeps 0 [] 0) :
    Asks (List.replicate n dice).flatten (keeps n) (Dice.addRounds round n 0) := by
  refine (asks.addRounds_from keeps step n start).mono fun faces total _ kept => ?_
  rwa [Nat.zero_add] at kept

end Rounds

theorem leading {holds : List Face → Value → Prop} {computation : RollM σ Values}
    (asks : Asks dice (fun faces values => holds faces values.first) computation) :
    Asks dice holds (Dice.leading computation) :=
  asks.map fun _ _ _ => id

section Draws

variable {tree : Tree Dice.Action} {dice : List Sides} {holds : List Face → Values → Prop}
  (asks : ∀ (σ : Type) [Roller σ], Asks dice holds (Dice.evaluate tree : RollM σ Values))
  (rolls : Nat) (roller : σ)

include asks

/-- What the roller is asked for, and what it gives. -/
theorem draws_eq : Dice.draws tree ⟨none, rolls, roller⟩ =
    (dice.zip (Roller.drawAll dice roller).1).map fun die => ⟨die.1, die.2⟩ := by
  obtain ⟨values, ⟨later, run⟩, -⟩ := asks (Recorded σ) rolls ⟨roller, []⟩
  have recorded : (⟨none, rolls, roller⟩ : Context σ).recorded = ⟨none, rolls, ⟨roller, []⟩⟩ := rfl
  rw [Dice.draws, recorded, run, Recorded.draws_drawAll]
  rfl

theorem sides_draws : (Dice.draws tree ⟨none, rolls, roller⟩).map Draw.sides = dice := by
  rw [draws_eq asks, List.map_map]
  exact List.map_fst_zip (Roller.length_drawAll dice roller).ge

theorem faces_draws :
    (Dice.draws tree ⟨none, rolls, roller⟩).map Draw.face = (Roller.drawAll dice roller).1 := by
  rw [draws_eq asks, List.map_map]
  exact List.map_snd_zip (Roller.length_drawAll dice roller).le

end Draws

end Asks

/-- In any context without a limit the computation asks for these dice, whatever it comes to. -/
abbrev Draws (dice : List Sides) (computation : RollM σ α) : Prop :=
  Asks dice (fun _ _ => True) computation

namespace Draws

variable {dice more : List Sides} {computation : RollM σ α}

theorem bind {next : α → RollM σ β} (draws : Draws dice computation)
    (each : ∀ a, Draws more (next a)) : Draws (dice ++ more) (computation >>= next) :=
  Asks.bind draws fun _ a _ _ => each a

theorem map {f : α → β} (draws : Draws dice computation) :
    Draws dice (do return f (← computation)) :=
  Asks.map draws fun _ _ _ => id

theorem leading {computation : RollM σ Values} (draws : Draws dice computation) :
    Draws dice (Dice.leading computation) :=
  draws.map

theorem addRounds {round : RollM σ Value} (draws : Draws dice round) (n : Nat) :
    Draws (List.replicate n dice).flatten (Dice.addRounds round n 0) :=
  Asks.addRounds draws (fun _ _ _ => True) (fun _ _ _ _ _ _ _ _ => trivial) n trivial

end Draws

/-- In any context without a limit the computation comes to this and draws nothing. -/
abbrev Steady (a : α) (computation : RollM σ α) : Prop :=
  Asks [] (fun _ found => found = a) computation

namespace Steady

variable {a : α} {b : β} {computation : RollM σ α} {next : α → RollM σ β}

theorem pure (a : α) : Steady a (Pure.pure a : RollM σ α) :=
  Asks.pure rfl

theorem request (n : Nat) : Steady () (request n : RollM σ Unit) :=
  (Asks.request n).mono fun _ _ _ _ => rfl

theorem before (steady : Steady a computation) {dice : List Sides}
    {holds : List Face → β → Prop} (asks : Asks dice holds (next a)) :
    Asks dice holds (computation >>= next) := by
  refine Asks.bind steady fun faces found length same => ?_
  obtain rfl := List.eq_nil_of_length_eq_zero length
  rwa [same]

theorem bind (steady : Steady a computation) (after : Steady b (next a)) :
    Steady b (computation >>= next) :=
  steady.before after

theorem leading {values : Values} {computation : RollM σ Values}
    (steady : Steady values computation) : Steady values.first (Dice.leading computation) :=
  steady.bind (pure values.first)

/-- The rounds of a sum that are all worth the same come to the product. -/
theorem addRounds {value : Value} {round : RollM σ Value} (steady : Steady value round) (n : Nat) :
    Steady (.clamp (n * value.toInt)) (Dice.addRounds round n 0) := by
  have nothing : (List.replicate n ([] : List Sides)).flatten = [] := List.flatten_replicate_nil
  rw [Steady, ← nothing]
  refine Asks.addRounds steady (fun k _ total => total = .clamp (k * value.toInt)) ?step n ?start
  case start =>
    rw [Nat.cast_zero, zero_mul]
    rfl
  case step =>
    rintro k _ _ _ _ rfl rfl -
    exact Value.clamp_mul_add k _

theorem comesTo (steady : Steady a computation) (rolls : Nat) (roller : σ) :
    ComesTo computation rolls roller a roller := by
  obtain ⟨_, comes, rfl⟩ := steady rolls roller
  exact comes

end Steady

end RollM

end DiceCalculator
