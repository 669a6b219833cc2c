import DiceCalculator.Grammar.Basic
import DiceCalculator.Tree.Basic
import Std.Data.TreeMap.Basic

/-!
# Charts

The state of matching one token list against a grammar. Every match ends where
an earlier one stopped, so a rule and a place name an attempt completely. The
chart remembers the answer of each finished attempt, the attempts that are
under way, and what happened so far.
-/

namespace DiceCalculator

/-- A rule tried on the tokens before the place `stop`. -/
@[ext]
structure Attempt where
  rule : RuleId
  stop : Nat
  deriving DecidableEq

/-- Attempts in the order of their place, and of their rule at the same place. -/
def Attempt.order : Attempt → Attempt → Ordering :=
  compareLex (compareOn (·.stop)) (compareOn (·.rule.index))

namespace Attempt

instance : Std.TransCmp Attempt.order :=
  inferInstanceAs (Std.TransCmp (compareLex _ _))

theorem order_eq_iff {a b : Attempt} : order a b = .eq ↔ a = b := by
  rcases a with ⟨⟨i⟩, m⟩
  rcases b with ⟨⟨j⟩, n⟩
  simp [order, compareLex, compareOn, Ordering.then_eq_eq, and_comm]

end Attempt

/-- A tree and the place of its first token; the tree ends where its rule was tried. -/
structure Match (α : Type) where
  start : Nat
  tree : Tree α
  deriving DecidableEq

inductive Event where
  /-- The rule took `length` tokens of those before `stop`. -/
  | matched (rule : RuleId) (length stop : Nat)
  /-- No alternative of the rule matched before `stop`. -/
  | failed (rule : RuleId) (stop : Nat)
  /-- The rule was tried before `stop` while it was under way there. -/
  | reentered (rule : RuleId) (stop : Nat)
  /-- The rule took no token as the part of a sequence. -/
  | tookNothing (rule : RuleId)
  deriving DecidableEq

/-- What matching knows so far. -/
structure Chart (α : Type) where
  /-- The answers of finished attempts. -/
  answers : Std.TreeMap Attempt (Option (Match α)) Attempt.order := {}
  /-- The attempts under way, the innermost first. -/
  underWay : List Attempt := []
  /-- What happened, the newest first. -/
  events : List Event := []

namespace Chart

variable {α : Type}

def note (chart : Chart α) (event : Event) : Chart α :=
  { chart with events := event :: chart.events }

def enter (chart : Chart α) (attempt : Attempt) : Chart α :=
  { chart with underWay := attempt :: chart.underWay }

def leave (chart : Chart α) (attempt : Attempt) : Chart α :=
  { chart with underWay := chart.underWay.erase attempt }

def remember (chart : Chart α) (attempt : Attempt) (answer : Option (Match α)) : Chart α :=
  { chart with answers := chart.answers.insert attempt answer }

end Chart

end DiceCalculator
