import DiceCalculator.Pattern.Basic

/-!
# Normal form of patterns

Before it is matched, a pattern is brought into a form that has fewer
spellings. Parentheses without a number are taken away, items that take nothing
are dropped, repetitions that change nothing are undone, a choice between
single characters becomes one set, and branches that begin alike share their
beginning.

Sharing is more than tidying up. The shared items settle on a way through the
text before a branch is chosen, so `a?abc|a?b` takes only `ab` of `abc`: with
the optional `a` taken, the second branch goes on.

A branch is a list of items here, and a pattern a list of branches.
-/

namespace DiceCalculator.Pattern

/-- Whether the pattern has a numbered group. -/
def hasNumber : Pattern → Bool
  | .empty | .assert _ | .char _ | .any | .one _ => false
  | .seq first second => first.hasNumber || second.hasNumber
  | .alt first second => first.hasNumber || second.hasNumber
  | .group numbered body => numbered || body.hasNumber
  | .many _ _ _ body => body.hasNumber

/-- The items of a sequence. -/
def items : Pattern → List Pattern
  | .empty => []
  | .seq first second => first.items ++ second.items
  | pattern => [pattern]

/-- The branches of a choice. -/
def branches : Pattern → List (List Pattern)
  | .alt first second => first.branches ++ second.branches
  | pattern => [pattern.items]

/-- One character of the set; a set of one character is that character. -/
def ofSet (set : CharSet) : Pattern :=
  match set.normal.ranges with
  | [(first, last)] => if first = last then .char first else .one set.normal
  | _ => .one set.normal

/-- The characters that the branch takes one of, if it is of that kind. -/
def ranges? : List Pattern → Option (List (Char × Char))
  | [.char c] => some [(c, c)]
  | [.one set] => some set.normal.ranges
  | _ => none

/-- The items that two branches begin with alike. Numbered groups are all different. -/
def alike : List Pattern → List Pattern → List Pattern
  | first :: rest, second :: others =>
    if first = second && !first.hasNumber then first :: alike rest others else []
  | _, _ => []

/-- The beginning that all branches share. A branch of one item shares nothing. -/
def beginning (branches : List (List Pattern)) : List Pattern :=
  if branches.any (·.length < 2) then []
  else branches.tail.foldl alike (branches.headD [])

/-- The choice between the branches as one item. -/
def choice (branches : List (List Pattern)) : Pattern :=
  match branches.mapM ranges?, branches.map inTurn with
  | some ranges, _ => ofSet ⟨ranges.flatten, false⟩
  | none, [] => .empty
  | none, first :: rest => anyOf first rest

/-- The branches as one, with a choice in it unless there is only one. -/
def unite : List (List Pattern) → List Pattern
  | [items] => items
  | split =>
    let flat := split.flatMap fun items => (inTurn items).branches
    let shared := beginning flat
    shared ++ [choice (flat.flatMap fun items => (inTurn (items.drop shared.length)).branches)]

/-- The repetition of a branch. More rounds than one of a branch that takes nothing are idle. -/
def repeated (least : Nat) (most : Option Nat) (greedy : Bool) (items : List Pattern) :
    List Pattern :=
  let body := inTurn items
  let (least, most) :=
    if body.vacuous then (min least 1, some (min 1 (most.getD 1))) else (least, most)
  if most = some 0 then []
  else if least = 1 && most = some 1 then items
  else [.many least most greedy body]

/-- The branches of the pattern, each in normal form. -/
def normalBranches : Pattern → List (List Pattern)
  | .empty => [[]]
  | .assert condition => [[.assert condition]]
  | .char c => [[.char c]]
  | .any => [[ofSet ⟨[('\n', '\n')], true⟩]]
  | .one set => [[ofSet set]]
  | .seq first second => [unite first.normalBranches ++ unite second.normalBranches]
  | .alt first second => first.normalBranches ++ second.normalBranches
  | .group true body => [[.group true (inTurn (unite body.normalBranches))]]
  | .group false body => [unite body.normalBranches]
  | .many least most greedy body => [repeated least most greedy (unite body.normalBranches)]

/-- The pattern in the form in which it is matched. -/
def normal (pattern : Pattern) : Pattern :=
  inTurn (unite pattern.normalBranches)

end DiceCalculator.Pattern
