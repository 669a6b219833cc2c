import DiceCalculator.Proofs.Evaluation.Agreement
import DiceCalculator.Proofs.Evaluation.Denotation

/-!
# Saturation

An operation on two values is a few steps, each of which stays at the bound that
it has passed. All but one of them come to the exact number, brought to the
nearest bound if it lies outside. A difference turns its second operand around
first, and the least value has no negative: where the first operand is negative
too, the difference is within the bounds and yet one too small.
-/

namespace DiceCalculator.Dice

/-- The operators bind on two levels. -/
inductive Level where
  | sum
  | product

namespace Level

/-- What an operator makes, and what it has on its left. -/
def whole : Level → Nonterminal
  | .sum => .arithExpr
  | .product => .term

/-- What an operator has on its right. -/
def operand : Level → Nonterminal
  | .sum => .term
  | .product => .atom

def action : Level → Action
  | .sum => .combine
  | .product => .scale

def kind : Level → Token.Kind
  | .sum => .arithOp
  | .product => .factorOp

end Level

inductive Operator : Level → Type where
  | plus : Operator .sum
  | minus : Operator .sum
  | multiply : Operator .product
  | divide : Operator .product

namespace Operator

variable {level : Level}

def text : Operator level → String
  | .plus => "+"
  | .minus => "-"
  | .multiply => "*"
  | .divide => "/"

def token (op : Operator level) : Token :=
  ⟨level.kind, op.text⟩

/-- The operator between its operands. -/
def node (op : Operator level) (left right : Tree Action) : Tree Action :=
  .branch level.action [left, .leaf .sign op.token, right]

/-- What the operator does to whole numbers. Quotients lose their fraction. -/
def exact : Operator level → Int → Int → Int
  | .plus, a, b => a + b
  | .minus, a, b => a - b
  | .multiply, a, b => a * b
  | .divide, a, b => a.tdiv b

def apply : Operator level → Value → Value → Value
  | .plus, a, b => a + b
  | .minus, a, b => a + -1 * b
  | .multiply, a, b => a * b
  | .divide, a, b => a / b

/-- There is an exact number for it. -/
def Defined : Operator level → Value → Prop
  | .divide, b => b.toInt ≠ 0
  | _, _ => True

/-- The negative of the second operand is no value, and the sum would not have gone beyond the
bounds with it. -/
def FallsShort : Operator level → Value → Value → Prop
  | .minus, a, b => a.toInt < 0 ∧ b = .least
  | _, _, _ => False

variable (op : Operator level) {left right : Tree Action} {a b : Value}

theorem wellFormed_token : WellFormed op.token := by
  cases op with
  | plus => exact wellFormed_iff.2 ⟨nofun, '+', by simp, rfl⟩
  | minus => exact wellFormed_iff.2 ⟨nofun, '-', by simp, rfl⟩
  | multiply => exact wellFormed_iff.2 ⟨nofun, '*', by simp, rfl⟩
  | divide => exact wellFormed_iff.2 ⟨nofun, '/', by simp, rfl⟩

theorem derives_node (leftDerives : Derives level.whole left)
    (rightDerives : Derives level.operand right) : Derives level.whole (op.node left right) := by
  cases op with
  | plus | minus => exact .combine leftDerives (.plusMinusOp rfl) rightDerives
  | multiply | divide => exact .scale leftDerives (.multDivOp rfl) rightDerives

theorem evaluate_node {σ : Type} [Roller σ] (leftPart : left.isLiteral = false)
    (rightPart : right.isLiteral = false) :
    (evaluate (op.node left right) : RollM σ Values) = do
      let a ← leading (evaluate left)
      let b ← leading (evaluate right)
      return .single (op.apply a b) := by
  cases op with
  | plus =>
    refine (evaluate_combine _ leftPart rightPart).trans ?_
    have sign : signOf plus.token.text = 1 := by decide
    simp only [sign, Value.one_mul, apply]
  | minus =>
    refine (evaluate_combine _ leftPart rightPart).trans ?_
    have sign : signOf minus.token.text = -1 := by decide
    simp only [sign, apply]
  | multiply =>
    refine (evaluate_scale _ leftPart rightPart).trans ?_
    have sign : signOf multiply.token.text = 1 := by decide
    simp only [sign, ↓reduceIte, apply]
  | divide =>
    refine (evaluate_scale _ leftPart rightPart).trans ?_
    have sign : signOf divide.token.text ≠ 1 := by decide
    simp only [sign, ↓reduceIte, apply]

theorem apply_eq_clamp (defined : op.Defined b) (enough : ¬op.FallsShort a b) :
    op.apply a b = .clamp (op.exact a.toInt b.toInt) := by
  cases op with
  | plus => rw [apply, exact, Value.add_eq]
  | multiply => rw [apply, exact, Value.mul_eq]
  | divide => rw [apply, exact, Value.div_eq_of_ne_zero defined]
  | minus =>
    have enough : ¬(a.toInt < 0 ∧ b.toInt = -0x8000000000000000) :=
      fun ⟨negative, least⟩ => enough ⟨negative, Value.ext least⟩
    have := a.least_le
    have := a.le_greatest
    have := b.least_le
    have := b.le_greatest
    ext
    simp only [apply, exact, Value.add_eq, Value.neg_one_mul, Value.toInt_clamp]
    omega

theorem toInt_apply_of_fallsShort (short : op.FallsShort a b) :
    (op.apply a b).toInt = op.exact a.toInt b.toInt - 1 := by
  cases op with
  | plus | multiply | divide => cases short
  | minus =>
    obtain ⟨negative, rfl⟩ := short
    have := a.least_le
    simp only [apply, exact, Value.add_eq, Value.neg_one_mul, Value.toInt_clamp, Value.least]
    omega

end Operator

/-- The operation on the first values of two computations. -/
def Operator.between {level : Level} (op : Operator level) (left right : Computation) :
    Computation := fun σ _ => do
  let a ← leading (left σ)
  let b ← leading (right σ)
  return .single (op.apply a b)

section Operation

variable {level : Level} {us vs : List Token} (op : Operator level)

theorem Denotes.operation {first second : Computation} (left : Denotes level.whole us first)
    (right : Denotes level.operand vs second) :
    Denotes level.whole (us ++ op.token :: vs) (op.between first second) := by
  obtain ⟨leftTree, leftDerives, rfl, leftEvaluated⟩ := left
  obtain ⟨rightTree, rightDerives, rfl, rightEvaluated⟩ := right
  refine ⟨op.node leftTree rightTree, op.derives_node leftDerives rightDerives,
    Tree.tokens_three level.action _ _ _, fun σ _ => ?_⟩
  rw [op.evaluate_node leftDerives.isLiteral_eq_false rightDerives.isLiteral_eq_false,
    leftEvaluated, rightEvaluated, Operator.between]

theorem Denotes.node {a b : Value} (left : Denotes level.whole us (constant a))
    (right : Denotes level.operand vs (constant b)) :
    Denotes level.whole (us ++ op.token :: vs) (constant (op.apply a b)) :=
  (Denotes.operation op left right).congr fun _ _ => rfl

end Operation

/-- An operand for each value. A negative one is a negative number less one, so that also the least
value can be written. -/
def writing (a : Value) : List Token :=
  if 0 ≤ a.toInt then [numeral a.toInt.toNat]
  else opening :: (minus :: [numeral (-a.toInt - 1).toNat] ++ minus :: [numeral 1] ++ [closing])

theorem wellFormed_writing (a : Value) : ∀ token ∈ writing a, WellFormed token := by
  have numbers := wellFormed_numeral
  unfold writing
  split
  · simp [numbers]
  · simp [numbers, wellFormed_minus, wellFormed_opening, wellFormed_closing]

theorem denotes_numeral {n : Nat} (within : (n : Int) ≤ 0x7fffffffffffffff) :
    Denotes .atom [numeral n] (constant (.clamp n)) := by
  refine (denotes_number n.repr).congr fun σ _ => ?_
  have number : Value.ofNumeral n.repr = .clamp n := by
    have spelled_eq := spelled_repr n
    ext
    rw [toInt_ofNumeral (row_repr n) (by omega), spelled_eq, Value.toInt_clamp]
    omega
  rw [number]

theorem denotes_writing (a : Value) : Denotes .atom (writing a) (constant a) := by
  have := a.least_le
  have := a.le_greatest
  unfold writing
  split
  · refine (denotes_numeral (by omega)).congr fun σ _ => ?_
    rw [Int.toNat_of_nonneg ‹_›, Value.clamp_toInt]
  · have front := (denotes_numeral (n := (-a.toInt - 1).toNat) (by omega)).operand.negate
    have whole := (Denotes.node .minus front (denotes_numeral (n := 1) (by omega)).operand).nested
    refine whole.congr fun σ _ => ?_
    have same : Operator.apply .minus (-.clamp (-a.toInt - 1).toNat) (.clamp (1 : Nat)) = a := by
      ext
      rw [Operator.apply, Value.neg_one_mul]
      simp only [Value.add_eq, Value.neg_eq, Value.toInt_clamp]
      omega
    rw [same]

open RollM in
/-- An operation on the values of two operands comes to the exact number, or to the nearest bound if
that is not a value. Only a difference may come to one less: where the first value is negative and
the second is the least one. Every value has operands that some text gives. -/
theorem runIn_operator {σ : Type} [Roller σ] :
    (∀ {level : Level} (op : Operator level) {left right : Tree Action}
      {context middle later : Context σ} {as bs : Values},
      Derives level.whole left → Derives level.operand right →
      (evaluate left).runIn context = (.ok as, middle) →
      (evaluate right).runIn middle = (.ok bs, later) → op.Defined bs.first →
      Derives level.whole (op.node left right) ∧
      ∃ value, (evaluate (op.node left right)).runIn context = (.ok (.single value), later) ∧
        (¬op.FallsShort as.first bs.first →
          value = .clamp (op.exact as.first.toInt bs.first.toInt)) ∧
        (op.FallsShort as.first bs.first →
          value.toInt = op.exact as.first.toInt bs.first.toInt - 1)) ∧
    (∀ {term : Tree Action} {context later : Context σ} {as : Values}, Derives .term term →
      (evaluate term).runIn context = (.ok as, later) →
      (evaluate (.branch .negate [.literal minus, term])).runIn context =
        (.ok (.single (.clamp (-as.first.toInt))), later)) ∧
    ∀ a : Value, ∃ text tokens tree, tokenize text = .ok tokens ∧ Derives .atom tree ∧
      tree.tokens = tokens ∧ ∀ context : Context σ,
        (evaluate tree).runIn context = (.ok (.single a), context) := by
  refine ⟨?_, ?_, fun a => ?_⟩
  · intro level op left right context middle later as bs derivesLeft derivesRight runLeft runRight
      defined
    refine ⟨op.derives_node derivesLeft derivesRight, op.apply as.first bs.first, ?_,
      op.apply_eq_clamp defined, op.toInt_apply_of_fallsShort⟩
    rw [op.evaluate_node derivesLeft.isLiteral_eq_false derivesRight.isLiteral_eq_false,
      runIn_bind_of_ok (runIn_leading runLeft), runIn_bind_of_ok (runIn_leading runRight)]
    rfl
  · intro term context later as derivation run
    rw [evaluate_negate _ derivation.isLiteral_eq_false, runIn_bind_of_ok (runIn_leading run)]
    rfl
  · obtain ⟨text, cut⟩ := exists_text (wellFormed_writing a)
    obtain ⟨tree, derivation, same, evaluated⟩ := denotes_writing a
    refine ⟨text, _, tree, cut, derivation, same, fun context => ?_⟩
    rw [evaluated]
    rfl

/-- The quotient of the least value and minus one is beyond the bounds. -/
theorem runIn_operator_quotient :
    let one : Tree Action := .branch .same [.leaf .number (numeral 1)]
    let greatest : Tree Action := .branch .same [.leaf .number (numeral 9223372036854775807)]
    let left : Tree Action := .branch .same [.branch .same [.literal opening,
      Operator.minus.node (.branch .negate [.literal minus, greatest]) one, .literal closing]]
    let right : Tree Action := .branch .same
      [.literal opening, .branch .negate [.literal minus, one], .literal closing]
    let context : Context Highest := .fresh none {}
    (evaluate left).runIn context = (.ok (.single .least), context) ∧
    (evaluate right).runIn context = (.ok (.single (-1)), context) ∧
    (evaluate (Operator.divide.node left right)).runIn context =
      (.ok (.single .greatest), context) := by
  intro one greatest left right context
  have runLeft : (evaluate left).runIn context = (.ok (.single .least), context) := by rfl
  have runRight : (evaluate right).runIn context = (.ok (.single (-1)), context) := by rfl
  have derivesOne : Derives .term one := .operand (.number rfl)
  have derivesLeft : Derives .term left :=
    .operand (.nested rfl (Operator.minus.derives_node (.negate rfl (.operand (.number rfl)))
      derivesOne) rfl)
  have derivesRight : Derives .atom right := .nested rfl (.negate rfl derivesOne) rfl
  obtain ⟨-, value, run, exact, -⟩ := runIn_operator.1 .divide derivesLeft derivesRight runLeft
    runRight (show (-1 : Value).toInt ≠ 0 by decide)
  have same : value = .greatest := (exact id).trans (by decide +kernel)
  exact ⟨runLeft, runRight, same ▸ run⟩

/-- Minus one less the least value is the greatest value, and comes to one less. -/
theorem runIn_difference_short :
    let zero : Tree Action := .branch .same [.leaf .number (numeral 0)]
    let one : Tree Action := .branch .same [.leaf .number (numeral 1)]
    let greatest : Tree Action := .branch .same [.leaf .number (numeral 9223372036854775807)]
    let left := Operator.minus.node (.branch .same [zero]) one
    let right : Tree Action := .branch .same [.branch .same [.literal opening,
      Operator.minus.node (Operator.minus.node (.branch .same [zero]) greatest) one,
      .literal closing]]
    let whole : Tree Action := .branch .same [.branch .same [Operator.minus.node left right]]
    let context : Context Highest := .fresh none {}
    tokenize "0-1-(0-9223372036854775807-1)" = .ok whole.tokens ∧
    (grammar.parse whole.tokens).found = some ⟨0, whole⟩ ∧
    (evaluate left).runIn context = (.ok (.single (-1)), context) ∧
    (evaluate right).runIn context = (.ok (.single .least), context) ∧
    (evaluate (Operator.minus.node left right)).runIn context =
      (.ok (.single (.clamp 9223372036854775806)), context) ∧
    Value.clamp 9223372036854775806 ≠
      .clamp (Operator.minus.exact (-1 : Value).toInt Value.least.toInt) := by
  intro zero one greatest left right whole context
  have cut : tokenize "0-1-(0-9223372036854775807-1)" = .ok whole.tokens := by decide +kernel
  have derivesNumber (n : Nat) : Derives .term (.branch .same [.leaf .number (numeral n)]) :=
    .operand (.number rfl)
  have derivesLeft : Derives .arithExpr left :=
    Operator.minus.derives_node (.single (derivesNumber 0)) (derivesNumber 1)
  have derivesLeast : Derives .arithExpr _ :=
    Operator.minus.derives_node
      (Operator.minus.derives_node (.single (derivesNumber 0)) (derivesNumber 9223372036854775807))
      (derivesNumber 1)
  have derivesRight : Derives .term right := .operand (.nested rfl derivesLeast rfl)
  have derivation : Derives .expr whole :=
    .only (.value (Operator.minus.derives_node derivesLeft derivesRight))
  refine ⟨cut, parse_of_derives derivation (lexical_of_mem cut), ?_, ?_, ?_, by decide⟩
  · rfl
  · rfl
  · rfl

end DiceCalculator.Dice
