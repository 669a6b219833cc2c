import DiceCalculator.Pattern.Normal
import DiceCalculator.Text.Encoded

/-!
# Limits on patterns

A pattern may not be nested too deeply as it is written, nor take too much room
in normal form. Room is counted for two machines over the bytes of the text,
one that reads it forward and one that reads it backward, in which bounded
repetitions are written out round by round. No repetition is written out to
find its room, so a huge bound costs nothing.
-/

namespace DiceCalculator.Pattern

/-- How deeply the written pattern is nested. A sequence is one level however long it is, and so
is a choice; a set is one level, and one more if it lists several ranges. -/
def depth : Pattern → Nat
  | .empty | .assert _ | .char _ | .any => 0
  | .one set => if set.ranges.length = 1 then 1 else 2
  | .seq first (.seq second third) => max (first.depth + 1) (seq second third).depth
  | .seq first second => max first.depth second.depth + 1
  | .alt first (.alt second third) => max (first.depth + 1) (alt second third).depth
  | .alt first second => max first.depth second.depth + 1
  | .group _ body => body.depth + 1
  | .many _ _ _ body => body.depth + 1

inductive Direction where
  | forward
  | backward
  deriving DecidableEq

/-- The room of a state of a machine, without the ways that lead on from it. -/
def stateRoom : Nat := 32

/-- The room of a state from which `n` ways lead on without a character. -/
def forkRoom (n : Nat) : Nat := stateRoom + 4 * n

/-- The room of a state from which `n` ways lead on, each for its own bytes. -/
def tableRoom (n : Nat) : Nat := stateRoom + 8 * n

/-- The boxes of the characters of the set. -/
def boxesOf (set : CharSet) : List (List Text.ByteRange) :=
  set.normal.ranges.flatMap Text.encoded

/-- What can follow a beginning of a box, and that for each beginning that is not a whole box. -/
def continuations (boxes : List (List Text.ByteRange)) : List (List (List Text.ByteRange)) :=
  let beginnings := (boxes.flatMap fun box => (List.range box.length).map box.take).eraseDups
  (beginnings.map fun beginning => boxes.filterMap beginning.isPrefixOf?).eraseDups

/-- The room of a set that is not ASCII. Forward, states with the same continuations are one and
the same; backward, boxes share the states of what they begin with alike. -/
def boxesRoom (boxes : List (List Text.ByteRange)) : Direction → Nat
  | .forward =>
    (continuations boxes).foldl (fun room following =>
      room + tableRoom (following.map List.head?).eraseDups.length) stateRoom
  | .backward =>
    let beginnings := boxes.flatMap fun box =>
      (List.range box.length).map fun n => box.take (n + 1)
    stateRoom + forkRoom boxes.length + stateRoom * beginnings.eraseDups.length

def setRoom (set : CharSet) (direction : Direction) : Nat :=
  let ranges := set.normal.ranges
  if ranges.all (·.2.toNat < 128) then stateRoom + tableRoom ranges.length
  else boxesRoom (boxesOf set) direction

/-- The room of a repetition, for a body that takes `room`. -/
def repetitionRoom (nullable : Bool) (room : Nat) : Nat → Option Nat → Nat
  | 0, some 1 => forkRoom 2 + room + stateRoom
  | 0, none => if nullable then forkRoom 2 + forkRoom 2 + stateRoom + room else forkRoom 2 + room
  | least, none => least * room + forkRoom 2
  | least, some most =>
    let fixed := if least = 0 then stateRoom else least * room
    if least = most then fixed else fixed + (most - least) * (forkRoom 2 + room) + stateRoom

def room (direction : Direction) : Pattern → Nat
  | .empty | .assert _ => stateRoom
  | .char c => stateRoom * c.utf8Size
  | .any => setRoom ⟨[('\n', '\n')], true⟩ direction
  | .one set => setRoom set direction
  | .seq first second => first.room direction + second.room direction
  | .alt first (.alt second third) => first.room direction + 4 + (alt second third).room direction
  | .alt first second =>
    forkRoom 2 + first.room direction + second.room direction + stateRoom
  | .group _ body =>
    (if direction = .forward then 2 * stateRoom else 0) + body.room direction
  | .many least most _ body => repetitionRoom body.nullable (body.room direction) least most

def maxDepth : Nat := 250

/-- The greatest room of a machine, in which its beginning and its end take `4 * stateRoom`. -/
def maxRoom : Nat := 10 * 1024 * 1024

/-- Whether the written pattern keeps to the limits. -/
def fits (written : Pattern) : Bool :=
  let pattern := written.normal
  written.depth ≤ maxDepth ∧
    4 * stateRoom + max (pattern.room .forward) (pattern.room .backward) ≤ maxRoom

end DiceCalculator.Pattern
