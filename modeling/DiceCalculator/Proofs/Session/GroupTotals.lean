import DiceCalculator.Proofs.Session.Groups
import Mathlib.Algebra.Group.Action.Defs

/-!
# The total of a group

A group of dice asks for its rounds before the first of them and for one die in
each, so it counts every die twice. Its total is the sum of the faces as far as
a value goes, and with every face on its die it stays within what the dice can
show.
-/

namespace DiceCalculator

variable {σ : Type}

/-- The faces are on the dice that were asked for. -/
theorem Roller.forall_mem_drawAll_replicate [Roller σ]
    (onDie : ∀ (sides : Sides) (roller : σ), 1 ≤ (draw sides roller).1.toNat ∧
      (draw sides roller).1.toNat ≤ sides.count) (n : Nat) (sides : Sides) (roller : σ) :
    ∀ face ∈ (drawAll (List.replicate n sides) roller).1,
      1 ≤ face.toNat ∧ face.toNat ≤ sides.count := by
  induction n generalizing roller with
  | zero => exact fun _ => nofun
  | succ n inductionHypothesis =>
    rw [List.replicate_succ, drawAll]
    exact List.forall_mem_cons.2 ⟨onDie sides roller, inductionHypothesis _⟩

namespace Dice

open RollM

namespace DiceGroup

variable (group : DiceGroup)

theorem computation_eq (σ : Type) [Roller σ] : group.computation σ = do
    RollM.announce group.dice.length
    return .single (← addRounds (leading (rolled group.die σ)) group.dice.length 0) := by
  rw [dice, List.length_replicate, ← group.toInt_count]
  rfl

/-- The rounds are announced, and each of them is one die. -/
theorem counts (σ : Type) [Roller σ] :
    Counts (2 * group.dice.length) (group.computation σ) := by
  have round : Counts 1 (leading (rolled group.die σ)) := (Counts.rollDie group.die).map.leading
  have rounds := round.addRounds group.dice.length 0
  rw [Nat.mul_one] at rounds
  rw [computation_eq, Nat.two_mul]
  exact (Counts.request _).bind fun _ => rounds.map

theorem dice_eq (isValue : spelled group.count.text.toList ≤ 0x7fffffffffffffff) :
    group.dice = List.replicate (spelled group.count.text.toList) group.die := by
  have worth : group.count.worth.toNat = spelled group.count.text.toList := by
    rw [Decimal.worth]
    omega
  rw [dice, worth]

end DiceGroup

theorem totalOf_eq_min (faces : List Face) :
    totalOf faces = min ((faces.map UInt32.toNat).sum : Int) 0x7fffffffffffffff := by
  rw [totalOf, within]
  omega

/-- Faces that are on their dice add up to one at least and to the number of sides at most for each
of them. -/
theorem sum_faces_bounds {faces : List Face} {sides : Nat}
    (onDie : ∀ face ∈ faces, 1 ≤ face.toNat ∧ face.toNat ≤ sides) :
    faces.length ≤ (faces.map UInt32.toNat).sum ∧
      (faces.map UInt32.toNat).sum ≤ faces.length * sides := by
  have each : ∀ n ∈ faces.map UInt32.toNat, 1 ≤ n ∧ n ≤ sides := List.forall_mem_map.2 onDie
  have least := (faces.map UInt32.toNat).card_nsmul_le_sum 1 fun n member => (each n member).1
  have most := (faces.map UInt32.toNat).sum_le_card_nsmul sides fun n member => (each n member).2
  rw [List.length_map, smul_eq_mul] at least most
  exact ⟨(Nat.mul_one _).ge.trans least, most⟩

/-- A group of dice is parsed as a whole, whatever white space is in it. It rolls as many dice as
its number says, if that is a value at all, each with as many sides as the other number says or with
the most there can be. Each die counts twice, once for its round. The group comes to the sum of the
faces or to the greatest value. So if the roller keeps to the dice, it comes to no less than one for
each die and to no more than all of their sides. -/
theorem parse_group_total (group : DiceGroup)
    (isValue : spelled group.count.text.toList ≤ 0x7fffffffffffffff) :
    ComesBack group.tokens ∧
    ∃ tree, (grammar.parse group.tokens).found = some ⟨0, tree⟩ ∧ tree.tokens = group.tokens ∧
      ∀ {σ : Type} [Roller σ] (roller : σ),
        let n := spelled group.count.text.toList
        let sides := min (spelled group.sides.text.toList) 0xffffffff
        let given := draws tree (.fresh none roller)
        let sum : Nat := (given.map (·.face.toNat)).sum
        let run := (evaluate tree).runIn (.fresh none roller)
        given.map (·.sides.count) = List.replicate n sides ∧
        run.2.rolls = 2 * n ∧
        ∃ value : Value, run.1 = .ok (.single value) ∧
          value.toInt = min (sum : Int) 0x7fffffffffffffff ∧
          ((∀ (die : Sides) (state : σ), 1 ≤ (Roller.draw die state).1.toNat ∧
              (Roller.draw die state).1.toNat ≤ die.count) →
            n ≤ value.toInt ∧ value.toInt ≤ min ((n * sides : Nat) : Int) 0x7fffffffffffffff) := by
  obtain ⟨tree, found, written, evaluated⟩ :=
    group.denotes.value.only.exists_found group.spaced.lexical
  refine ⟨group.spaced.comesBack, tree, found, written, fun {σ} _ roller => ?_⟩
  intro n sides given sum run
  have asks (σ : Type) [Roller σ] := evaluated σ ▸ group.asks σ
  have counts := evaluated σ ▸ group.counts σ
  have length : group.dice.length = n := by rw [group.dice_eq isValue, List.length_replicate]
  have asked : given.map Draw.sides = group.dice := Asks.sides_draws asks 0 roller
  have gave : given.map Draw.face = (Roller.drawAll group.dice roller).1 :=
    Asks.faces_draws asks 0 roller
  have sum_eq : ((Roller.drawAll group.dice roller).1.map UInt32.toNat).sum = sum := by
    rw [← gave, List.map_map]
    rfl
  obtain ⟨values, comes, value, worth, rfl⟩ := asks σ 0 roller
  have run_eq : run = _ := counts.runIn_eq (Nat.zero_le _) comes
  rw [totalOf_eq_min, sum_eq] at worth
  rw [run_eq]
  refine ⟨?sides, ?count, value, rfl, worth, ?bounds⟩
  case sides =>
    calc given.map (·.sides.count)
      _ = (given.map Draw.sides).map Sides.count := by rw [List.map_map]; rfl
      _ = List.replicate n sides := by
        rw [asked, group.dice_eq isValue, List.map_replicate]
        rfl
  case count =>
    change min Context.greatestCount (0 + 2 * group.dice.length) = 2 * n
    rw [length, Context.greatestCount]
    omega
  case bounds =>
    intro onDie
    have faces := Roller.forall_mem_drawAll_replicate onDie n group.die roller
    rw [← group.dice_eq isValue] at faces
    obtain ⟨least, most⟩ := sum_faces_bounds faces
    rw [Roller.length_drawAll, length, sum_eq] at least most
    have most : sum ≤ n * sides := most
    generalize n * sides = all at most ⊢
    omega

/-- Two dice: four requests and a total from two to twelve. -/
theorem parse_group_total_pair :
    let group : DiceGroup :=
      ⟨⟨"2", by decide⟩, 'd', ⟨"06", by decide⟩, by decide, by decide, by decide⟩
    let start : Context Highest := .fresh none {}
    tokenize " 2\td06" = .ok group.tokens ∧
    ∃ tree value, (grammar.parse group.tokens).found = some ⟨0, tree⟩ ∧
      (draws tree start).map (·.sides.count) = [6, 6] ∧
      ((evaluate tree).runIn start).1 = .ok (.single value) ∧
      ((evaluate tree).runIn start).2.rolls = 4 ∧ 2 ≤ value.toInt ∧ value.toInt ≤ 12 := by
  intro group start
  obtain ⟨cut, tree, found, -, rolls⟩ := parse_group_total group (by decide)
  have two : spelled group.count.text.toList = 2 := by decide +kernel
  have six : spelled group.sides.text.toList = 6 := by decide +kernel
  rw [two, six] at rolls
  obtain ⟨sides, counted, value, comes, -, bounds⟩ := rolls ({} : Highest)
  have onDie (die : Sides) (state : Highest) : 1 ≤ (Roller.draw die state).1.toNat ∧
      (Roller.draw die state).1.toNat ≤ die.count := by
    have face : (Roller.draw die state).1.toNat = die.count :=
      UInt32.toNat_ofNat_of_lt die.lt_size
    exact ⟨face ▸ die.pos, face.le⟩
  obtain ⟨least, most⟩ := bounds onDie
  have text : joined ([" ", "\t"].zip group.tokens) "" = " 2\td06" := by decide +kernel
  have spaced := cut ([" ", "\t"].zip group.tokens) "" (by decide +kernel) (by decide +kernel)
    (by decide)
  rw [text] at spaced
  exact ⟨spaced, tree, value, found, sides, comes, counted, least, most⟩

end Dice

end DiceCalculator
