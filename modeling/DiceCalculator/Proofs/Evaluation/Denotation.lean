import DiceCalculator.Proofs.Dice.Parsing
import DiceCalculator.Proofs.Dice.Printing
import DiceCalculator.Proofs.Evaluation.Productions
import DiceCalculator.Proofs.Session.Independence

/-!
# What token lists denote

A list of tokens has at most one derivation from a name, so it can be said to
denote what its derivation is worth. The productions are rules for this relation
then, and no tree has to be written down to know what a text comes to: whatever
denotes something as an expression is parsed as a whole, and a text of such
tokens rolls it.
-/

namespace DiceCalculator.Dice

/-- A computation that rolls with whatever roller there is. -/
abbrev Computation :=
  ∀ (σ : Type) [Roller σ], RollM σ Values

/-- One value for which nothing is rolled. -/
def constant (a : Value) : Computation :=
  fun _ _ => pure (.single a)

/-- The first computation, and then the second unless it fails. -/
def inTurn (first second : Computation) : Computation := fun σ _ => do
  let before ← first σ
  let after ← second σ
  return before ++ after

/-- The sum of as many rounds of the second computation as the first one says. -/
def repeated (count round : Computation) : Computation := fun σ _ => do
  let n ← leading (count σ)
  RollM.announce n.toInt.toNat
  return .single (← addRounds (leading (round σ)) n.toInt.toNat 0)

/-- The tokens derive from the name, and are worth the computation. -/
def Denotes (X : Nonterminal) (tokens : List Token) (computation : Computation) : Prop :=
  ∃ tree, Derives X tree ∧ tree.tokens = tokens ∧
    ∀ (σ : Type) [Roller σ], evaluate tree = computation σ

theorem Derives.denotes {X : Nonterminal} {tree : Tree Action} (derivation : Derives X tree) :
    Denotes X tree.tokens fun _ _ => evaluate tree :=
  ⟨tree, derivation, rfl, fun _ _ => rfl⟩

theorem denotes_number (text : String) :
    Denotes .atom [⟨.number, text⟩] (constant (.ofNumeral text)) :=
  ⟨_, .number rfl, rfl, fun _ _ => rfl⟩

namespace Denotes

variable {X : Nonterminal} {tokens : List Token} {computation other : Computation}

theorem congr (denotes : Denotes X tokens computation)
    (same : ∀ (σ : Type) [Roller σ], computation σ = other σ) : Denotes X tokens other := by
  obtain ⟨tree, derivation, rfl, evaluated⟩ := denotes
  exact ⟨tree, derivation, rfl, fun σ _ => (evaluated σ).trans (same σ)⟩

theorem alone (denotes : Denotes X tokens computation) {Y : Nonterminal}
    (derives : ∀ {tree}, Derives X tree → Derives Y (.branch .same [tree])) :
    Denotes Y tokens computation := by
  obtain ⟨tree, derivation, rfl, evaluated⟩ := denotes
  refine ⟨_, derives derivation, Tree.tokens_one .same tree, fun σ _ => ?_⟩
  rw [evaluate_same derivation.isLiteral_eq_false, evaluated]

theorem operand (denotes : Denotes .atom tokens computation) : Denotes .term tokens computation :=
  denotes.alone .operand

theorem single (denotes : Denotes .term tokens computation) :
    Denotes .arithExpr tokens computation :=
  denotes.alone .single

theorem value (denotes : Denotes .arithExpr tokens computation) :
    Denotes .assignment tokens computation :=
  denotes.alone .value

theorem only (denotes : Denotes .assignment tokens computation) :
    Denotes .expr tokens computation :=
  denotes.alone .only

theorem nested (denotes : Denotes .arithExpr tokens computation) :
    Denotes .atom (opening :: (tokens ++ [closing])) computation := by
  obtain ⟨tree, derivation, rfl, evaluated⟩ := denotes
  refine ⟨_, .nested rfl derivation rfl, Tree.tokens_three .same _ tree _, fun σ _ => ?_⟩
  rw [evaluate_nested _ _ derivation.isLiteral_eq_false, evaluated]

theorem negate {a : Value} (denotes : Denotes .term tokens (constant a)) :
    Denotes .arithExpr (minus :: tokens) (constant (-a)) := by
  obtain ⟨tree, derivation, rfl, evaluated⟩ := denotes
  refine ⟨_, .negate rfl derivation, Tree.tokens_two .negate _ tree, fun σ _ => ?_⟩
  rw [evaluate_negate _ derivation.isLiteral_eq_false, evaluated]
  rfl

theorem rounds {us vs : List Token} (front : Denotes .term us computation)
    (last : Denotes .term vs other) : Denotes .arithExpr (us ++ vs) (repeated computation other) := by
  obtain ⟨first, firstDerives, rfl, firstEvaluated⟩ := front
  obtain ⟨second, secondDerives, rfl, secondEvaluated⟩ := last
  refine ⟨_, .rounds firstDerives secondDerives, Tree.tokens_two .rounds first second,
    fun σ _ => ?_⟩
  rw [evaluate_rounds firstDerives.isLiteral_eq_false secondDerives.isLiteral_eq_false,
    firstEvaluated, secondEvaluated, repeated]

theorem list {us vs : List Token} {mark : Token} (front : Denotes .expr us computation)
    (isComma : mark.text = ",") (last : Denotes .assignment vs other) :
    Denotes .expr (us ++ mark :: vs) (inTurn computation other) := by
  obtain ⟨first, firstDerives, rfl, firstEvaluated⟩ := front
  obtain ⟨second, secondDerives, rfl, secondEvaluated⟩ := last
  refine ⟨_, .list firstDerives isComma secondDerives, Tree.tokens_three .list first _ second,
    fun σ _ => ?_⟩
  rw [evaluate_list _ firstDerives.isLiteral_eq_false secondDerives.isLiteral_eq_false,
    firstEvaluated, secondEvaluated, inTurn]

/-- What denotes something as an expression is parsed as a whole. -/
theorem exists_found (denotes : Denotes .expr tokens computation)
    (lexical : ∀ token ∈ tokens, Lexical token) :
    ∃ tree, (grammar.parse tokens).found = some ⟨0, tree⟩ ∧ tree.tokens = tokens ∧
      ∀ (σ : Type) [Roller σ], evaluate tree = computation σ := by
  obtain ⟨tree, derivation, rfl, evaluated⟩ := denotes
  exact ⟨tree, parse_of_derives derivation lexical, rfl, evaluated⟩

section Rolling

variable {text : String} {σ : Type} [Roller σ]

theorem result_rollText (denotes : Denotes .expr tokens computation)
    (cut : tokenize text = .ok tokens) (context : Context σ) :
    (context.rollText text).result =
      let run := (computation σ).runIn context.reset
      ((run.1.map (Outcome.mk tokens)).mapError .roll, run.2) := by
  obtain ⟨tree, found, -, evaluated⟩ := denotes.exists_found (lexical_of_mem cut)
  simp only [Context.result_rollText, cut, found, evaluated]

theorem result_roll (denotes : Denotes .expr tokens computation)
    (cut : tokenize text = .ok tokens) (roller : σ) :
    (roll text roller).result = ((computation σ).runIn (.fresh none roller)).1.mapError .roll := by
  rw [roll, Logged.result_bind, denotes.result_rollText cut]
  have reset : (Context.fresh none roller).reset = .fresh none roller := rfl
  rw [reset]
  rcases (computation σ).runIn (.fresh none roller) with ⟨error | values, later⟩ <;> rfl

end Rolling

end Denotes

end DiceCalculator.Dice
