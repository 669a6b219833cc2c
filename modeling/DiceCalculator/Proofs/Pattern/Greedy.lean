import DiceCalculator.Tokenizer.Dice
import Mathlib.Tactic.Common

/-!
# Greedy rows

A greedy repetition of a set takes all characters of the set that it finds. At
each place it comes to its fork for the first time, so it is never turned away,
and what it takes is the longest row.
-/

namespace DiceCalculator.Pattern

variable {set : CharSet} {taken rest : List Char} {here : Cursor} {seen : Seen}
  {inner address : Address}

/-- The text does not go on with a character of the set. -/
def Stops (set : CharSet) (rest : List Char) : Prop :=
  ∀ c ∈ rest.head?, set.contains c = false

theorem stops_nil : Stops set [] := by
  simp [Stops]

theorem stops_cons {c : Char} : Stops set (c :: rest) ↔ set.contains c = false := by
  simp [Stops]

theorem run_one_of_contains {c : Char} (goal : Goal) (left : here.left = c :: rest)
    (inside : set.contains c = true) :
    (one set).run address goal here = goal (here.advance c rest) := by
  simp only [run, left, inside, ↓reduceIte]

theorem run_one_of_stops (goal : Goal) (stops : Stops set here.left) :
    (one set).run address goal here = Search.fail := by
  cases left : here.left with
  | nil => simp only [run, left]
  | cons c rest =>
    rw [left, stops_cons] at stops
    simp only [run, left, stops, Bool.false_eq_true, ↓reduceIte]

/-- The fork was tried nowhere from the place on. -/
def Untried (address : Address) (passed : Nat) (seen : Seen) : Prop :=
  ∀ later, passed ≤ later → (later, address) ∉ seen

theorem untried_empty (passed : Nat) : Untried address passed {} :=
  fun _ _ => Std.TreeSet.not_mem_emptyc

theorem Untried.insert {passed : Nat} (untried : Untried address passed seen) :
    Untried address (passed + 1) (seen.insert (passed, address)) := by
  intro later after tried
  rw [Std.TreeSet.mem_insert, visitOrder_eq_iff] at tried
  obtain same | before := tried
  · rw [← (Prod.mk.inj same).1] at after
    exact absurd after (Nat.not_succ_le_self passed)
  · exact untried later (Nat.le_of_succ_le after) before

theorem inOrder_of_first {first second : Goal} {stop : Nat}
    (fresh : (here.passed, address) ∉ seen)
    (found : (first here (seen.insert (here.passed, address))).1 = some stop) :
    (inOrder address first second here seen).1 = some stop := by
  rw [inOrder_of_not_mem fresh]
  generalize first here (seen.insert (here.passed, address)) = tried at found ⊢
  obtain ⟨outcome, later⟩ := tried
  cases found
  rfl

/-- From a place on, the repetition takes all characters of the set up to the first other one. -/
theorem run_further_one {n : Nat} (each : ∀ c ∈ taken, set.contains c = true)
    (stops : Stops set rest) (left : here.left = taken ++ rest)
    (untried : Untried address here.passed seen) (enough : taken.length < n) :
    (further ((one set).run inner) address true Cursor.finish n here seen).1 =
      some (here.passed + taken.length) := by
  induction n generalizing taken here seen with
  | zero => cases enough
  | succ n inductionHypothesis =>
    -- each round moves on, so the fork is never found tried
    have fresh := untried here.passed (Nat.le_refl _)
    rw [further, fork, if_pos rfl]
    cases taken with
    | nil =>
      rw [inOrder_of_not_mem fresh, run_one_of_stops _ (by rwa [left])]
      rfl
    | cons c taken =>
      rw [List.cons_append] at left
      obtain ⟨inside, others⟩ := List.forall_mem_cons.1 each
      apply inOrder_of_first fresh
      have row := @inductionHypothesis taken (here.advance c (taken ++ rest)) _ others rfl
        untried.insert (Nat.lt_of_succ_lt_succ enough)
      rw [run_one_of_contains _ left inside, row]
      exact congrArg some (Nat.succ_add_eq_add_succ here.passed taken.length)

/-- A row of the set is taken as a whole. -/
theorem run_someOf (taken_ne : taken ≠ []) (each : ∀ c ∈ taken, set.contains c = true)
    (stops : Stops set rest) (left : here.left = taken ++ rest) :
    ((Dice.someOf set).run address Cursor.finish here {}).1 =
      some (here.passed + taken.length) := by
  obtain ⟨c, others, rfl⟩ := List.exists_cons_of_ne_nil taken_ne
  obtain ⟨inside, eachOther⟩ := List.forall_mem_cons.1 each
  have first : (Dice.someOf set).run address Cursor.finish here {} =
      (rounds ((one set).run (0 :: 0 :: address)) (1 :: address) true Cursor.finish) here {} := rfl
  rw [List.cons_append] at left
  rw [first, rounds, run_one_of_contains _ left inside]
  have row : (further ((one set).run (0 :: 0 :: address)) (1 :: address) true Cursor.finish
      ((others ++ rest).length + 1) (here.advance c (others ++ rest)) {}).1 =
        some (here.passed + 1 + others.length) :=
    run_further_one eachOther stops rfl (untried_empty _)
      (by simp only [List.length_append]; omega)
  exact row.trans (congrArg some (Nat.succ_add_eq_add_succ here.passed others.length))

end DiceCalculator.Pattern
