import DiceCalculator.Proofs.Dice.Soundness
import DiceCalculator.Proofs.Evaluation.Productions
import DiceCalculator.Proofs.Evaluation.Simulation

/-!
# Evaluation comes to values

Every node of a tree that matching finds is a derivation, for tokens of any
kind and text. A derivation has the operands that its action asks for, and the
arithmetic has no failures, so the one error that its evaluation can meet is a
limit on the count. It comes to one value, and to one more for each comma on
the way down along its first operands.
-/

namespace DiceCalculator

open RollM

variable {α β σ : Type}

namespace RollM

/-- The ways in which a computation may end under a limit: with a result that has the property, or
cut off by a limit that there is. -/
inductive Ends (limit : Option Nat) (holds : α → Prop) : Except RollError α → Prop where
  | ok {a} : holds a → Ends limit holds (.ok a)
  | cut : limit ≠ none → Ends limit holds (.error .tooManyRolls)

/-- The computation has no errors of its own, its results have the property, and it leaves the
limit as it is. -/
def Yields (holds : α → Prop) (computation : RollM σ α) : Prop :=
  ∀ context, Ends context.limit holds (computation.runIn context).1 ∧
    (computation.runIn context).2.limit = context.limit

namespace Yields

variable {holds : α → Prop} {holdsAfter : β → Prop}

theorem pure {a : α} (held : holds a) : Yields holds (pure a : RollM σ α) :=
  fun _ => ⟨.ok held, rfl⟩

theorem bind {first : RollM σ α} {next : α → RollM σ β} (yields : Yields holds first)
    (each : ∀ a, holds a → Yields holdsAfter (next a)) : Yields holdsAfter (first >>= next) := by
  intro context
  obtain ⟨ends, same⟩ := yields context
  cases run : first.runIn context with
  | mk outcome middle =>
    rw [run] at ends same
    cases ends with
    | ok held =>
      rw [runIn_bind_of_ok run, ← same]
      exact each _ held middle
    | cut limited =>
      rw [runIn_bind_of_error run]
      exact ⟨.cut limited, same⟩

theorem request (n : Nat) : Yields (fun _ => True) (request n : RollM σ Unit) := by
  intro context
  rw [runIn_request]
  by_cases exceeded : (context.count n).isExceeded = true
  · rw [if_pos exceeded]
    refine ⟨.cut ?_, rfl⟩
    intro unlimited
    simp [Context.isExceeded, Context.count, unlimited] at exceeded
  · rw [if_neg exceeded]
    exact ⟨.ok trivial, rfl⟩

theorem rollDie [Roller σ] (sides : Sides) :
    Yields (fun _ => True) (rollDie sides : RollM σ Face) :=
  (request 1).bind fun _ _ _ => ⟨.ok trivial, rfl⟩

theorem leading {holds : Values → Prop} {computation : RollM σ Values}
    (yields : Yields holds computation) :
    Yields (fun _ => True) (Dice.leading computation) :=
  yields.bind fun _ _ => .pure trivial

theorem addRounds {round : RollM σ Value} (yields : Yields (fun _ => True) round) (n : Nat)
    (total : Value) : Yields (fun _ => True) (Dice.addRounds round n total) := by
  induction n generalizing total with
  | zero => exact .pure trivial
  | succ n inductionHypothesis => exact yields.bind fun value _ => inductionHypothesis (total + value)

end Yields

end RollM

namespace Dice

mutual

/-- How many lists there are on the way down from the tree along its first operands. -/
def listsOnLeft : Tree Action → Nat
  | .branch action parts => (if action = .list then 1 else 0) + listsOnLeftOf parts
  | _ => 0

/-- The same for the first of the parts that is not punctuation. -/
def listsOnLeftOf : List (Tree Action) → Nat
  | [] => 0
  | tree :: rest => if tree.isLiteral then listsOnLeftOf rest else listsOnLeft tree

end

theorem listsOnLeft_branch (action : Action) {first : Tree Action} (rest : List (Tree Action))
    (part : first.isLiteral = false) :
    listsOnLeft (.branch action (first :: rest)) =
      (if action = .list then 1 else 0) + listsOnLeft first := by
  simp [listsOnLeft, listsOnLeftOf, part]

theorem listsOnLeft_branch_literal (action : Action) (mark : Token) (rest : List (Tree Action)) :
    listsOnLeft (.branch action (.literal mark :: rest)) = listsOnLeft (.branch action rest) := by
  simp [listsOnLeft, listsOnLeftOf]

namespace Derives

variable {X : Nonterminal} {tree node : Tree Action}

theorem listsOnLeft_eq_zero (derivation : Derives X tree) (other : X ≠ .expr) :
    listsOnLeft tree = 0 := by
  induction derivation with
  | list | only => exact absurd rfl other
  | plusMinusOp | multDivOp | word | name | number | die => rfl
  | nested _ first _ inductionHypothesis | negate _ first inductionHypothesis =>
    rw [listsOnLeft_branch_literal, listsOnLeft_branch _ _ first.isLiteral_eq_false,
      inductionHypothesis (by decide)]
    rfl
  | dotted first _ _ inductionHypothesis | reference first inductionHypothesis
  | scale first _ _ inductionHypothesis | operand first inductionHypothesis
  | combine first _ _ inductionHypothesis | rounds first _ inductionHypothesis
  | single first inductionHypothesis | assign first _ _ inductionHypothesis
  | value first inductionHypothesis =>
    rw [listsOnLeft_branch _ _ first.isLiteral_eq_false, inductionHypothesis (by decide)]
    rfl

/-- A derivation comes to as many values as it has places on the left for them. -/
theorem yields [Roller σ] (derivation : Derives X tree) :
    Yields (fun values => values.toList.length = 1 + listsOnLeft tree)
      (evaluate tree : RollM σ Values) := by
  induction derivation with
  | plusMinusOp | multDivOp | word | name | number => exact .pure rfl
  | dotted owner dot part =>
    rw [evaluate_dotted, (dotted owner dot part).listsOnLeft_eq_zero (by decide)]
    exact .pure rfl
  | @die token =>
    rw [evaluate_die]
    cases sidesOf? token.text with
    | none => exact .pure rfl
    | some sides => exact (Yields.rollDie sides).bind fun _ _ => .pure rfl
  | reference first inductionHypothesis | operand first inductionHypothesis
  | single first inductionHypothesis | value first inductionHypothesis
  | only first inductionHypothesis =>
    have part := first.isLiteral_eq_false
    rw [evaluate_same part, listsOnLeft_branch _ _ part]
    simpa using inductionHypothesis
  | nested opens inner closes inductionHypothesis =>
    rw [evaluate_nested _ _ inner.isLiteral_eq_false, listsOnLeft_branch_literal,
      listsOnLeft_branch _ _ inner.isLiteral_eq_false]
    simpa using inductionHypothesis
  | scale term sign atom first _ second =>
    rw [(scale term sign atom).listsOnLeft_eq_zero (by decide)]
    cases sign
    rw [evaluate_scale _ term.isLiteral_eq_false atom.isLiteral_eq_false]
    exact first.leading.bind fun _ _ => second.leading.bind fun _ _ => .pure rfl
  | combine sum sign term first _ second =>
    rw [(combine sum sign term).listsOnLeft_eq_zero (by decide)]
    cases sign
    rw [evaluate_combine _ sum.isLiteral_eq_false term.isLiteral_eq_false]
    exact first.leading.bind fun _ _ => second.leading.bind fun _ _ => .pure rfl
  | negate minus term inductionHypothesis =>
    rw [(negate minus term).listsOnLeft_eq_zero (by decide),
      evaluate_negate _ term.isLiteral_eq_false]
    exact inductionHypothesis.leading.bind fun _ _ => .pure rfl
  | rounds count term first second =>
    rw [(rounds count term).listsOnLeft_eq_zero (by decide),
      evaluate_rounds count.isLiteral_eq_false term.isLiteral_eq_false]
    refine first.leading.bind fun count _ => ?_
    refine (Yields.request _).bind fun _ _ => ?_
    exact (second.leading.addRounds _ 0).bind fun _ _ => .pure rfl
  | assign path equals value _ inductionHypothesis =>
    rw [(assign path equals value).listsOnLeft_eq_zero (by decide),
      evaluate_assign _ path.isLiteral_eq_false value.isLiteral_eq_false]
    rw [value.listsOnLeft_eq_zero (by decide)] at inductionHypothesis
    exact inductionHypothesis
  | list front comma last first second =>
    rw [last.listsOnLeft_eq_zero (by decide)] at second
    rw [evaluate_list _ front.isLiteral_eq_false last.isLiteral_eq_false,
      listsOnLeft_branch _ _ front.isLiteral_eq_false]
    refine first.bind fun before frontLength => ?_
    refine second.bind fun after lastLength => .pure ?_
    rw [Values.toList_append, List.length_append, frontLength, lastLength, if_pos rfl]
    omega

/-- The children of a derivation are derivations, and only a list has one among them. -/
theorem child (derivation : Derives X tree) (member : node ∈ tree.children) :
    ∃ Y, Derives Y node ∧ (X ≠ .expr → Y ≠ .expr) := by
  cases derivation with
  | plusMinusOp | multDivOp | word | name | number | die => exact absurd member List.not_mem_nil
  | reference part | operand part | single part | value part | only part =>
    cases List.mem_singleton.1 (List.mem_filter.1 member).1
    exact ⟨_, part, by simp⟩
  | negate _ part =>
    simp only [Tree.children, List.mem_filter, List.mem_cons, List.not_mem_nil, or_false] at member
    obtain ⟨rfl | rfl, kept⟩ := member
    · cases kept
    · exact ⟨_, part, by simp⟩
  | nested _ part _ =>
    simp only [Tree.children, List.mem_filter, List.mem_cons, List.not_mem_nil, or_false] at member
    obtain ⟨rfl | rfl | rfl, kept⟩ := member
    · cases kept
    · exact ⟨_, part, by simp⟩
    · cases kept
  | rounds first second =>
    simp only [Tree.children, List.mem_filter, List.mem_cons, List.not_mem_nil, or_false] at member
    obtain ⟨rfl | rfl, -⟩ := member
    · exact ⟨_, first, by simp⟩
    · exact ⟨_, second, by simp⟩
  | dotted first _ second | assign first _ second | list first _ second =>
    simp only [Tree.children, List.mem_filter, List.mem_cons, List.not_mem_nil, or_false] at member
    obtain ⟨rfl | rfl | rfl, kept⟩ := member
    · exact ⟨_, first, by simp⟩
    · cases kept
    · exact ⟨_, second, by simp⟩
  | scale first second third | combine first second third =>
    simp only [Tree.children, List.mem_filter, List.mem_cons, List.not_mem_nil, or_false] at member
    obtain ⟨rfl | rfl | rfl, -⟩ := member
    · exact ⟨_, first, by simp⟩
    · exact ⟨_, second, by simp⟩
    · exact ⟨_, third, by simp⟩

/-- So is every node below it. -/
theorem descend (derivation : Derives X tree) (path : List Nat)
    (reached : tree.descend? path = some node) :
    ∃ Y, Derives Y node ∧ (X ≠ .expr → Y ≠ .expr) := by
  induction path generalizing X tree with
  | nil =>
    cases reached
    exact ⟨X, derivation, id⟩
  | cons index rest inductionHypothesis =>
    obtain ⟨child, found, reached⟩ := Option.bind_eq_some_iff.1 reached
    obtain ⟨Y, derives, other⟩ := derivation.child (List.mem_of_getElem? found)
    obtain ⟨Z, derives, otherToo⟩ := inductionHypothesis derives reached
    exact ⟨Z, derives, otherToo ∘ other⟩

end Derives

/-- Matching finds a piece of punctuation, which is all there is of its tree and has no value, or a
tree each of whose nodes comes to its values unless a limit cuts its evaluation off. No other error
occurs, so no operand is ever missing. -/
theorem evaluate_total [Roller σ] {ts : List Token} {id : RuleId} {found : Match Action}
    (matched : (grammar.matchRule id ts).found = some found) {path : List Nat} {node : Tree Action}
    (reached : found.tree.descend? path = some node) (context : Context σ) :
    (node.isLiteral = true →
      path = [] ∧ grammar.rule? id = some ⟨.literal node.text, [.literal node.text]⟩ ∧
        (evaluate node).runIn context = (.error (.noValue node.text), context)) ∧
    (node.isLiteral = false →
      (id ≠ Place.expr → listsOnLeft node = 0) ∧
        ((∃ values, ((evaluate node).runIn context).1 = .ok values ∧
            values.toList.length = 1 + listsOnLeft node) ∨
          context.limit ≠ none ∧ ((evaluate node).runIn context).1 = .error .tooManyRolls)) := by
  rcases derives_or_mark matched with ⟨X, place, derivation⟩ | ⟨token, punctuation, mark⟩
  · obtain ⟨Y, derives, other⟩ := derivation.descend path reached
    refine ⟨by simp [derives.isLiteral_eq_false], fun _ => ⟨?_, ?_⟩⟩
    · intro outside
      have notList : X ≠ .expr := by
        rintro rfl
        exact outside place.symm
      exact derives.listsOnLeft_eq_zero (other notList)
    · have ends := (derives.yields context).1
      generalize ((evaluate node).runIn context).1 = outcome at ends
      cases ends with
      | ok length => exact .inl ⟨_, rfl, length⟩
      | cut limited => exact .inr ⟨limited, rfl⟩
  · rw [punctuation] at reached
    cases path with
    | nil =>
      cases reached
      exact ⟨fun _ => ⟨rfl, mark, rfl⟩, by simp⟩
    | cons => cases reached

/-- A die that is none, a comma among blanks and a number without digits: there are two values. -/
theorem evaluate_total_shapeless :
    let ts : List Token := [⟨.dice, "é"⟩, ⟨.whitespace, ","⟩, ⟨.number, ""⟩]
    let tree : Tree Action := .branch .list [
      .branch .same [.branch .same [.branch .same [.branch .same [.leaf .die ⟨.dice, "é"⟩]]]],
      .literal ⟨.whitespace, ","⟩,
      .branch .same [.branch .same [.branch .same [.leaf .number ⟨.number, ""⟩]]]]
    let context : Context Highest := .fresh (some 0) ⟨0⟩
    (grammar.matchRule Place.expr ts).found = some ⟨0, tree⟩ ∧ tree.descend? [] = some tree ∧
    (tree.isLiteral = true →
      [] = ([] : List Nat) ∧
        grammar.rule? Place.expr = some ⟨.literal tree.text, [.literal tree.text]⟩ ∧
        (evaluate tree).runIn context = (.error (.noValue tree.text), context)) ∧
    (tree.isLiteral = false →
      (Place.expr ≠ Place.expr → listsOnLeft tree = 0) ∧
        ((∃ values, ((evaluate tree).runIn context).1 = .ok values ∧
            values.toList.length = 1 + listsOnLeft tree) ∨
          context.limit ≠ none ∧ ((evaluate tree).runIn context).1 = .error .tooManyRolls)) := by
  intro ts tree context
  have matched : (grammar.matchRule Place.expr ts).found = some ⟨0, tree⟩ := by decide +kernel
  have reached : tree.descend? [] = some tree := rfl
  have whole := evaluate_total matched reached context
  exact ⟨matched, reached, whole⟩

end Dice

end DiceCalculator
