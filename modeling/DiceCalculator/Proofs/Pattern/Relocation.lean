import DiceCalculator.Pattern.Matching
import Mathlib.Tactic.Common

/-!
# A pattern within another one

Where a pattern stands within another one its forks have longer addresses: the
way down to the pattern comes behind them all. A search tells forks apart by
their addresses and asks nothing else of them, so it finds the same as for the
pattern by itself.
-/

namespace DiceCalculator.Pattern

variable {way address : Address} {seen moved : Seen} {greedy : Bool}

/-- The forks that were tried are the same, but for the way down to the pattern. -/
def Moved (way : Address) (seen moved : Seen) : Prop :=
  ∀ passed address, (passed, address ++ way) ∈ moved ↔ (passed, address) ∈ seen

theorem moved_empty (way : Address) : Moved way {} {} := by
  simp [Moved]

theorem Moved.insert (same : Moved way seen moved) (passed : Nat) (address : Address) :
    Moved way (seen.insert (passed, address)) (moved.insert (passed, address ++ way)) := by
  intro later other
  simp only [Std.TreeSet.mem_insert, visitOrder_eq_iff, Prod.mk.injEq, List.append_cancel_right_eq,
    same later other]

/-- From the same place both goals find the same, and they try the same forks. -/
def Agree (way : Address) (goal other : Goal) : Prop :=
  ∀ here seen moved, Moved way seen moved →
    (other here moved).1 = (goal here seen).1 ∧
      Moved way (goal here seen).2 (other here moved).2

variable {goal other first second firstOther secondOther : Goal}

theorem Agree.inOrder (agreeFirst : Agree way first firstOther)
    (agreeSecond : Agree way second secondOther) (address : Address) :
    Agree way (inOrder address first second)
      (inOrder (address ++ way) firstOther secondOther) := by
  intro here seen moved same
  by_cases tried : (here.passed, address) ∈ seen
  · rw [inOrder_of_mem tried, inOrder_of_mem ((same _ _).2 tried)]
    exact ⟨rfl, same⟩
  · rw [inOrder_of_not_mem tried, inOrder_of_not_mem (mt (same _ _).1 tried)]
    obtain ⟨found, sameLater⟩ := agreeFirst here _ _ (same.insert here.passed address)
    generalize first here (seen.insert (here.passed, address)) = result,
      firstOther here (moved.insert (here.passed, address ++ way)) = resultOther at found sameLater ⊢
    obtain ⟨outcome, later⟩ := result
    obtain ⟨outcomeOther, laterOther⟩ := resultOther
    obtain rfl : outcomeOther = outcome := found
    cases outcomeOther with
    | some stop => exact ⟨rfl, sameLater⟩
    | none => exact agreeSecond here later laterOther sameLater

theorem Agree.fork (agreeLonger : Agree way first firstOther)
    (agreeShorter : Agree way second secondOther) (address : Address) :
    Agree way (fork address greedy first second)
      (fork (address ++ way) greedy firstOther secondOther) := by
  unfold Pattern.fork
  split
  · exact agreeLonger.inOrder agreeShorter address
  · exact agreeShorter.inOrder agreeLonger address

section Rounds

variable {round roundOther : Goal → Goal} {each eachOther : Nat → Goal → Goal}

theorem Agree.copies (agree : Agree way goal other)
    (rounds : ∀ i goal other, Agree way goal other → Agree way (each i goal) (eachOther i other))
    (first n : Nat) : Agree way (copies each first n goal) (copies eachOther first n other) := by
  induction n generalizing first with
  | zero => exact agree
  | succ n inductionHypothesis => exact rounds first _ _ (inductionHypothesis (first + 1))

theorem Agree.upTo (agree : Agree way goal other)
    (rounds : ∀ i goal other, Agree way goal other → Agree way (each i goal) (eachOther i other))
    (address : Address) (first n : Nat) :
    Agree way (upTo each address greedy first n goal)
      (upTo eachOther (address ++ way) greedy first n other) := by
  induction n generalizing first with
  | zero => exact agree
  | succ n inductionHypothesis =>
    exact (rounds first _ _ (inductionHypothesis (first + 1))).fork agree (first :: address)

theorem Agree.further (agree : Agree way goal other)
    (rounds : ∀ goal other, Agree way goal other → Agree way (round goal) (roundOther other))
    (address : Address) (n : Nat) :
    Agree way (further round address greedy goal n)
      (further roundOther (address ++ way) greedy other n) := by
  induction n with
  | zero => exact fun _ _ _ same => ⟨rfl, same⟩
  | succ n inductionHypothesis => exact (rounds _ _ inductionHypothesis).fork agree address

theorem Agree.rounds (agree : Agree way goal other)
    (each : ∀ goal other, Agree way goal other → Agree way (round goal) (roundOther other))
    (address : Address) :
    Agree way (rounds round address greedy goal)
      (rounds roundOther (address ++ way) greedy other) :=
  each _ _ fun here => agree.further each address (here.left.length + 1) here

end Rounds

theorem agree_run (pattern : Pattern) (address : Address) (agree : Agree way goal other) :
    Agree way (pattern.run address goal) (pattern.run (address ++ way) other) := by
  induction pattern generalizing address goal other with
  | empty => exact agree
  | assert condition =>
    intro here seen moved same
    simp only [run]
    split
    · exact agree here seen moved same
    · exact ⟨rfl, same⟩
  | char | any | one =>
    intro here seen moved same
    cases left : here.left with
    | nil =>
      simp only [run, left]
      exact ⟨rfl, same⟩
    | cons c rest =>
      simp only [run, left]
      split
      · exact agree _ seen moved same
      · exact ⟨rfl, same⟩
  | seq first second agreeFirst agreeSecond =>
    exact agreeFirst (0 :: address) (agreeSecond (1 :: address) agree)
  | alt first second agreeFirst agreeSecond =>
    exact (agreeFirst (0 :: address) agree).inOrder (agreeSecond (1 :: address) agree) address
  | group numbered body agreeBody => exact agreeBody (0 :: address) agree
  | many least most greedy body agreeBody =>
    have round (i : Nat) (goal other : Goal) (agree : Agree way goal other) :
        Agree way (body.run (i :: 0 :: address) goal) (body.run (i :: 0 :: address ++ way) other) :=
      agreeBody (i :: 0 :: address) agree
    intro here seen moved same
    match least, most with
    | least, some most =>
      simp only [run]
      exact (agree.upTo round (1 :: address) least (most - least)).copies round 0 least
        here seen moved same
    | least + 1, none =>
      simp only [run]
      exact (agree.rounds (round least) (1 :: address)).copies round 0 least here seen moved same
    | 0, none =>
      simp only [run]
      split
      · exact (agree.rounds (round 0) (2 :: address)).fork agree (1 :: address) here seen moved same
      · exact agree.further (round 0) (1 :: address) (here.left.length + 1) here seen moved same

/-- What is found does not depend on where the pattern stands. -/
theorem run_moved (pattern : Pattern) (way : Address) (here : Cursor) :
    (pattern.run way Cursor.finish here {}).1 = pattern.matchAt? here := by
  have finish : Agree way Cursor.finish Cursor.finish := fun _ _ _ same => ⟨rfl, same⟩
  exact (agree_run pattern [] finish here {} {} (moved_empty way)).1

end DiceCalculator.Pattern
