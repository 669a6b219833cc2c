import DiceCalculator.Pattern.CharSet

/-!
# Patterns

A pattern says which pieces of text a token rule takes. It is a tree of
characters, character sets and conditions on the place, put together by
sequence, alternative and repetition.
-/

namespace DiceCalculator

/-- What a place is to the words around it. A half asks about one side only. -/
inductive WordEdge where
  | either
  | neither
  | start
  | stop
  | startHalf
  | stopHalf
  deriving DecidableEq, Repr

/-- Whether the edge is there, from whether there is a word before the place and one after it. -/
def WordEdge.holds (before after : Bool) : WordEdge → Bool
  | .either => before != after
  | .neither => before == after
  | .start => !before && after
  | .stop => before && !after
  | .startHalf => !before
  | .stopHalf => !after

inductive Assertion where
  | start
  | stop
  /-- The beginning of a line. With `returns`, lines also end with a carriage return, or with one
  and a line feed. -/
  | lineStart (returns : Bool)
  | lineStop (returns : Bool)
  /-- An edge of a word, whose characters are those of all scripts or of ASCII only. -/
  | word (edge : WordEdge) (ascii : Bool)
  deriving DecidableEq, Repr

inductive Pattern where
  /-- Takes nothing. -/
  | empty
  /-- Takes nothing, and only where the condition holds. -/
  | assert (condition : Assertion)
  /-- Takes this character. -/
  | char (c : Char)
  /-- Takes one character that is not a line feed. -/
  | any
  /-- Takes one character of the set. -/
  | one (set : CharSet)
  /-- The first pattern, then the second. -/
  | seq (first second : Pattern)
  /-- The first pattern, or else the second. -/
  | alt (first second : Pattern)
  /-- A pattern in parentheses, which are numbered if they could be referred to. -/
  | group (numbered : Bool) (body : Pattern)
  /-- The body from `least` up to `most` times, without an upper bound if `most` is absent. -/
  | many (least : Nat) (most : Option Nat) (greedy : Bool) (body : Pattern)
  deriving DecidableEq, Repr

namespace Pattern

/-- The patterns one after the other. -/
def inTurn : List Pattern → Pattern
  | [] => .empty
  | [pattern] => pattern
  | pattern :: rest => .seq pattern (inTurn rest)

/-- The first of the patterns that lets the match succeed, the given one before the others. -/
def anyOf (first : Pattern) : List Pattern → Pattern
  | [] => first
  | next :: rest => .alt first (anyOf next rest)

/-- Whether the pattern can match without taking a character. -/
def nullable : Pattern → Bool
  | .empty | .assert _ => true
  | .char _ | .any | .one _ => false
  | .seq first second => first.nullable && second.nullable
  | .alt first second => first.nullable || second.nullable
  | .group _ body => body.nullable
  | .many least _ _ body => least = 0 || body.nullable

/-- Whether the pattern never takes a character. -/
def vacuous : Pattern → Bool
  | .empty | .assert _ => true
  | .char _ | .any | .one _ => false
  | .seq first second => first.vacuous && second.vacuous
  | .alt first second => first.vacuous && second.vacuous
  | .group _ body => body.vacuous
  | .many _ most _ body => most = some 0 || body.vacuous

end Pattern

end DiceCalculator
