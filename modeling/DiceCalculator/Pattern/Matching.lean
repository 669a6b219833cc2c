import DiceCalculator.Pattern.Basic
import DiceCalculator.Text.Word
import Std.Data.TreeSet.Basic

/-!
# Matching patterns

Matching is ordered. Of two alternatives the first that lets the rest of the
pattern succeed wins; a repetition tries another round first when it is greedy
and the rest first when it is not. `Pattern.run` follows that order with the
rest of the match as a continuation, so the first success is the match.

A pattern can only go two ways at a fork: an alternative, or the choice between
another round and the rest. A fork that was tried at a place before has nothing
new to offer there: either it has failed, or it is being tried and has come
back to itself without taking a character. So it fails at once. This bounds the
work by the number of forks times the number of places, makes every repetition
end, and decides which of several ways through empty rounds is preferred.
-/

namespace DiceCalculator.Pattern

/-- A place in the text: how many characters lie before it, the last of them, and those from it
on. -/
structure Cursor where
  passed : Nat
  before : Option Char
  left : List Char

def Cursor.advance (here : Cursor) (c : Char) (rest : List Char) : Cursor :=
  ⟨here.passed + 1, some c, rest⟩

def Cursor.satisfies (here : Cursor) : Assertion → Bool
  | .start => here.passed = 0
  | .stop => here.left = []
  | .lineStart false => here.passed = 0 || here.before = some '\n'
  | .lineStop false => here.left = [] || here.left.head? = some '\n'
  -- a line feed behind a carriage return belongs to the same end of a line
  | .lineStart true =>
    here.passed = 0 || here.before = some '\n' ||
      here.before = some '\r' && here.left.head? ≠ some '\n'
  | .lineStop true =>
    here.left = [] || here.left.head? = some '\r' ||
      here.left.head? = some '\n' && here.before ≠ some '\r'
  | .word edge ascii =>
    let isWord := if ascii then fun c => c.isAlphanum || c = '_' else Text.isWordChar
    edge.holds (here.before.any isWord) (here.left.head?.any isWord)

/-- Where a fork stands in the pattern: the way down to it, the last step first. The rounds of a
repetition with bounds are told apart. -/
abbrev Address := List Nat

abbrev Visit := Nat × Address

/-- Visits in the order of their place. -/
def visitOrder : Visit → Visit → Ordering :=
  compareLex (compareOn (·.1)) (compareOn (·.2))

instance : Std.TransCmp visitOrder :=
  inferInstanceAs (Std.TransCmp (compareLex _ _))

theorem visitOrder_eq_iff {a b : Visit} : visitOrder a b = .eq ↔ a = b := by
  rcases a with ⟨m, s⟩
  rcases b with ⟨n, t⟩
  simp [visitOrder, compareLex, compareOn, Ordering.then_eq_eq]

/-- The forks that were tried, each with its place. -/
abbrev Seen := Std.TreeSet Visit visitOrder

/-- A search for the end of a match. It is given the forks that were tried before, and gives them
back with those that it tried itself. -/
abbrev Search := Seen → Option Nat × Seen

/-- What is still to be matched, from a place on. -/
abbrev Goal := Cursor → Search

def Search.fail : Search :=
  fun seen => (none, seen)

def Cursor.finish (here : Cursor) : Search :=
  fun seen => (some here.passed, seen)

/-- Tries two ways in order, unless the fork was tried at this place before. -/
def inOrder (address : Address) (first second : Goal) (here : Cursor) : Search := fun seen =>
  if seen.contains (here.passed, address) then (none, seen)
  else
    match first here (seen.insert (here.passed, address)) with
    | (some stop, seen) => (some stop, seen)
    | (none, seen) => second here seen

theorem inOrder_of_mem {address : Address} {first second : Goal} {here : Cursor} {seen : Seen}
    (tried : (here.passed, address) ∈ seen) :
    inOrder address first second here seen = (none, seen) :=
  if_pos tried

theorem inOrder_of_not_mem {address : Address} {first second : Goal} {here : Cursor} {seen : Seen}
    (fresh : (here.passed, address) ∉ seen) :
    inOrder address first second here seen =
      match first here (seen.insert (here.passed, address)) with
      | (some stop, seen) => (some stop, seen)
      | (none, seen) => second here seen :=
  if_neg fresh

/-- A fork between a longer way and a shorter one: greedy tries the longer one first. -/
def fork (address : Address) (greedy : Bool) (longer shorter : Goal) : Goal :=
  if greedy then inOrder address longer shorter else inOrder address shorter longer

/-- The rounds with the numbers `first` to `first + n - 1`, then the goal. -/
def copies (round : Nat → Goal → Goal) (first : Nat) : Nat → Goal → Goal
  | 0, goal, here => goal here
  | n + 1, goal, here => round first (copies round (first + 1) n goal) here

/-- The rounds with the numbers `first` to `first + n - 1` as far as they go, then the goal. -/
def upTo (round : Nat → Goal → Goal) (address : Address) (greedy : Bool) (first : Nat) :
    Nat → Goal → Goal
  | 0, goal, here => goal here
  | n + 1, goal, here =>
    fork (first :: address) greedy
      (round first (upTo round address greedy (first + 1) n goal)) goal here

/-- After a round: more of the same, or the goal. With as many characters left as `n` says, the
fork is tried at no more than `n + 1` places, so it is never reached with `n` used up. -/
def further (round : Goal → Goal) (address : Address) (greedy : Bool) (goal : Goal) :
    Nat → Goal
  | 0, _ => Search.fail
  | n + 1, here => fork address greedy (round (further round address greedy goal n)) goal here

/-- One round or more, then the goal. -/
def rounds (round : Goal → Goal) (address : Address) (greedy : Bool) (goal : Goal) : Goal :=
  round fun there => further round address greedy goal (there.left.length + 1) there

/-- The first way, in the order of preference, to match the pattern and then the goal. -/
def run : Pattern → Address → Goal → Goal
  | .empty, _, goal, here => goal here
  | .assert condition, _, goal, here =>
    if here.satisfies condition then goal here else Search.fail
  | .char d, _, goal, here =>
    match here.left with
    | [] => Search.fail
    | c :: rest => if c = d then goal (here.advance c rest) else Search.fail
  | .any, _, goal, here =>
    match here.left with
    | [] => Search.fail
    | c :: rest => if c ≠ '\n' then goal (here.advance c rest) else Search.fail
  | .one set, _, goal, here =>
    match here.left with
    | [] => Search.fail
    | c :: rest => if set.contains c then goal (here.advance c rest) else Search.fail
  | .seq first second, address, goal, here =>
    first.run (0 :: address) (second.run (1 :: address) goal) here
  | .alt first second, address, goal, here =>
    inOrder address (first.run (0 :: address) goal) (second.run (1 :: address) goal) here
  | .group _ body, address, goal, here => body.run (0 :: address) goal here
  | .many least (some most) greedy body, address, goal, here =>
    let round i := body.run (i :: 0 :: address)
    copies round 0 least (upTo round (1 :: address) greedy least (most - least) goal) here
  | .many 0 none greedy body, address, goal, here =>
    let round := body.run (0 :: 0 :: address)
    if body.nullable then
      fork (1 :: address) greedy (rounds round (2 :: address) greedy goal) goal here
    else further round (1 :: address) greedy goal (here.left.length + 1) here
  | .many (least + 1) none greedy body, address, goal, here =>
    let round i := body.run (i :: 0 :: address)
    copies round 0 least (rounds (round least) (1 :: address) greedy goal) here

/-- The end of the preferred match that begins at the place. -/
def matchAt? (pattern : Pattern) (here : Cursor) : Option Nat :=
  (pattern.run [] Cursor.finish here {}).1

/-- The end of the preferred match among those that begin nearest to the place. -/
def search (pattern : Pattern) (passed : Nat) (before : Option Char) : List Char → Option Nat
  | [] => pattern.matchAt? ⟨passed, before, []⟩
  | c :: rest =>
    (pattern.matchAt? ⟨passed, before, c :: rest⟩).orElse fun _ =>
      pattern.search (passed + 1) (some c) rest

/-- Where the leftmost match in the text ends. -/
def matchEnd? (pattern : Pattern) (text : List Char) : Option Nat :=
  pattern.search 0 none text

end DiceCalculator.Pattern
