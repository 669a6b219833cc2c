import DiceCalculator.Proofs.Evaluation.Saturation

/-!
# Sums of products

A text of numbers with operators between them, and perhaps a minus sign in
front, is read as in arithmetic: products first, and both sums and products from
the left. The sign in front turns the first product around, not the whole sum. A
number and what a product comes to are never negative, so each step of a product
or a sum comes to the exact number if this is within the bounds.
-/

namespace DiceCalculator.Dice

/-- A number as it is written; it may begin with zeros. -/
structure Decimal where
  text : String
  row : Row digits text.toList

/-- Operands with operators between them. -/
structure Chain (level : Level) (α : Type) where
  first : α
  others : List (Operator level × α)

/-- A sum of products, perhaps with a minus sign in front. -/
structure FlatSum where
  negated : Bool
  products : Chain .sum (Chain .product Decimal)

section Writing

def Decimal.token (x : Decimal) : Token :=
  ⟨.number, x.text⟩

def Chain.tokens {level : Level} {α : Type} (tokensOf : α → List Token) (chain : Chain level α) :
    List Token :=
  tokensOf chain.first ++ chain.others.flatMap fun link => link.1.token :: tokensOf link.2

def FlatSum.tokens (sum : FlatSum) : List Token :=
  (if sum.negated then [minus] else []) ++
    sum.products.tokens (Chain.tokens fun x => [x.token])

end Writing

section Reckoning

/-- The number, or the nearest bound if it lies outside. -/
def within (n : Int) : Int :=
  max (-0x8000000000000000) (min 0x7fffffffffffffff n)

/-- A quotient by zero is the greatest number there is, or zero for zero. -/
def Operator.step {level : Level} : Operator level → Int → Int → Int
  | .plus, a, b => within (a + b)
  | .minus, a, b => within (a - b)
  | .multiply, a, b => within (a * b)
  | .divide, a, b => if b = 0 then if 0 < a then 0x7fffffffffffffff else 0 else a.tdiv b

/-- What comes of the operands when each is taken from the left. -/
def fromLeft {level : Level} {α : Type} (worthOf : α → Int) (start : Int)
    (others : List (Operator level × α)) : Int :=
  others.foldl (fun worth link => link.1.step worth (worthOf link.2)) start

def Decimal.worth (x : Decimal) : Int :=
  min (spelled x.text.toList) 0x7fffffffffffffff

def Chain.worth (product : Chain .product Decimal) : Int :=
  fromLeft Decimal.worth product.first.worth product.others

def FlatSum.worth (sum : FlatSum) : Int :=
  let first := sum.products.first.worth
  fromLeft Chain.worth (if sum.negated then -first else first) sum.products.others

end Reckoning

/-- The tokens are worth the number, which is not negative for a number or a product, and they need
no white space between them. -/
structure AmountsTo (X : Nonterminal) (tokens : List Token) (n : Int) : Prop where
  exists_value : ∃ value : Value, value.toInt = n ∧ Denotes X tokens (constant value)
  spaced : Spaced tokens
  nonneg : X = .atom ∨ X = .term → 0 ≤ n

theorem Operator.toInt_apply {level : Level} (op : Operator level) {a b : Value}
    (leftNonneg : level = .product → 0 ≤ a.toInt) (rightNonneg : 0 ≤ b.toInt) :
    (op.apply a b).toInt = op.step a.toInt b.toInt := by
  cases op with
  | plus =>
    rw [Operator.plus.apply_eq_clamp trivial id]
    rfl
  | minus =>
    have enough : ¬Operator.minus.FallsShort a b := by
      rintro ⟨-, rfl⟩
      exact absurd rightNonneg (by decide)
    rw [Operator.minus.apply_eq_clamp trivial enough]
    rfl
  | multiply =>
    rw [Operator.multiply.apply_eq_clamp trivial id]
    rfl
  | divide =>
    have leftNonneg := leftNonneg rfl
    by_cases zero : b.toInt = 0
    · rw [apply, step, if_pos zero, Value.div_eq_of_eq_zero zero, if_neg (Int.not_lt.2 leftNonneg),
        apply_ite Value.toInt]
      rfl
    · have quotient_le := Int.tdiv_le_self b.toInt leftNonneg
      have quotient_nonneg := Int.tdiv_nonneg leftNonneg rightNonneg
      have := a.le_greatest
      rw [Operator.divide.apply_eq_clamp zero id, step, if_neg zero, exact]
      exact Value.toInt_clamp_of_mem (by omega) (by omega)

theorem Operator.step_nonneg (op : Operator .product) {a b : Int} (leftNonneg : 0 ≤ a)
    (rightNonneg : 0 ≤ b) : 0 ≤ op.step a b := by
  cases op with
  | multiply =>
    have := Int.mul_nonneg leftNonneg rightNonneg
    rw [step, within]
    omega
  | divide =>
    have := Int.tdiv_nonneg leftNonneg rightNonneg
    rw [step]
    split_ifs <;> omega

namespace AmountsTo

variable {level : Level} {us vs : List Token} {m n : Int}

theorem node (op : Operator level) (left : AmountsTo level.whole us m)
    (right : AmountsTo level.operand vs n) :
    AmountsTo level.whole (us ++ op.token :: vs) (op.step m n) := by
  obtain ⟨a, rfl, leftDenotes⟩ := left.exists_value
  obtain ⟨b, rfl, rightDenotes⟩ := right.exists_value
  have rightNonneg : 0 ≤ b.toInt := right.nonneg (by cases level <;> simp [Level.operand])
  have leftNonneg : level = .product → 0 ≤ a.toInt := by
    rintro rfl
    exact left.nonneg (.inr rfl)
  constructor
  · exact ⟨op.apply a b, op.toInt_apply leftNonneg rightNonneg, leftDenotes.node op rightDenotes⟩
  · exact left.spaced.mark (by cases level <;> simp [Operator.token, Level.kind, marks])
      op.wellFormed_token right.spaced
  · cases level with
    | sum => simp [Level.whole]
    | product => exact fun _ => op.step_nonneg (leftNonneg rfl) rightNonneg

theorem fromLeft (level : Level) {us : List Token} {m : Int} {α : Type}
    {tokensOf : α → List Token} {worthOf : α → Int}
    (each : ∀ a, AmountsTo level.operand (tokensOf a) (worthOf a))
    (first : AmountsTo level.whole us m) (others : List (Operator level × α)) :
    AmountsTo level.whole (us ++ others.flatMap fun link => link.1.token :: tokensOf link.2)
      (fromLeft worthOf m others) := by
  induction others generalizing us m with
  | nil =>
    rw [List.flatMap_nil, List.append_nil]
    exact first
  | cons link others inductionHypothesis =>
    have longer := inductionHypothesis (first.node link.1 (each link.2))
    rwa [List.append_assoc] at longer

theorem operand (atom : AmountsTo .atom us m) : AmountsTo .term us m := by
  obtain ⟨value, same, denotes⟩ := atom.exists_value
  exact ⟨⟨value, same, denotes.operand⟩, atom.spaced, fun _ => atom.nonneg (.inl rfl)⟩

theorem single (term : AmountsTo .term us m) : AmountsTo .arithExpr us m := by
  obtain ⟨value, same, denotes⟩ := term.exists_value
  exact ⟨⟨value, same, denotes.single⟩, term.spaced, nofun⟩

theorem negate (term : AmountsTo .term us m) : AmountsTo .arithExpr (minus :: us) (-m) := by
  obtain ⟨value, rfl, denotes⟩ := term.exists_value
  have nonneg := term.nonneg (.inr rfl)
  have := value.le_greatest
  have opposite : (-value).toInt = -value.toInt := by
    rw [Value.neg_eq]
    exact Value.toInt_clamp_of_mem (by omega) (by omega)
  have spaced : Spaced ([] ++ minus :: us) :=
    Spaced.mark ⟨by simp, .nil⟩ (by simp [minus, marks]) wellFormed_minus term.spaced
  exact ⟨⟨-value, opposite, denotes.negate⟩, spaced, by simp⟩

end AmountsTo

theorem Decimal.amountsTo (x : Decimal) : AmountsTo .atom [x.token] x.worth := by
  refine ⟨⟨.ofNumeral x.text, ?_, denotes_number x.text⟩, .singleton ?_, fun _ => ?_⟩
  · exact toInt_ofNumeral_eq_min x.row
  · exact wellFormed_iff.2 ⟨nofun, x.row⟩
  · rw [worth]
    omega

theorem Chain.amountsTo (product : Chain .product Decimal) :
    AmountsTo .term (product.tokens fun x => [x.token]) product.worth :=
  AmountsTo.fromLeft .product Decimal.amountsTo product.first.amountsTo.operand
    product.others

theorem FlatSum.amountsTo (sum : FlatSum) : AmountsTo .arithExpr sum.tokens sum.worth := by
  obtain ⟨negated, ⟨first, others⟩⟩ := sum
  cases negated with
  | false =>
    exact AmountsTo.fromLeft .sum Chain.amountsTo first.amountsTo.single others
  | true =>
    exact AmountsTo.fromLeft .sum Chain.amountsTo first.amountsTo.negate others

/-- A text of numbers, with a sign between any two of them and perhaps a minus sign in front, is
parsed as a whole, whatever white space is in it. It rolls one value: the sum of the products,
reckoned from the left, where each step that would go beyond a bound stays there. -/
theorem roll_flatSum (sum : FlatSum) (pieces : List (String × Token)) (last : String)
    (written : pieces.map Prod.snd = sum.tokens) (blanks : ∀ piece ∈ pieces, Blank piece.1)
    (blank : Blank last) :
    tokenize (joined pieces last) = .ok sum.tokens ∧
    ∃ tree value, (grammar.parse sum.tokens).found = some ⟨0, tree⟩ ∧ tree.tokens = sum.tokens ∧
      value.toInt = sum.worth ∧ ∀ {σ : Type} [Roller σ] (roller : σ),
        (roll (joined pieces last) roller).result = .ok (.single value) := by
  obtain ⟨⟨value, worth_eq, denotes⟩, spaced, -⟩ := sum.amountsTo
  have cut : tokenize (joined pieces last) = .ok sum.tokens := by
    rw [← written] at spaced ⊢
    exact spaced.tokenize_joined blanks blank
  obtain ⟨tree, found, tokens_eq, -⟩ := denotes.value.only.exists_found (lexical_of_mem cut)
  refine ⟨cut, tree, value, found, tokens_eq, worth_eq, fun {σ} _ roller => ?_⟩
  exact denotes.value.only.result_roll cut roller

/-- The quotient loses its fraction before it is a factor, and the sign in front stays in front. -/
theorem roll_flatSum_mixed :
    let sum : FlatSum := ⟨true, ⟨⟨⟨"7", by decide⟩, [(.divide, ⟨"2", by decide⟩),
        (.multiply, ⟨"3", by decide⟩)]⟩,
      [(.minus, ⟨⟨"007", by decide⟩, []⟩),
        (.plus, ⟨⟨"9223372036854775808", by decide⟩, [(.divide, ⟨"0", by decide⟩)]⟩)]⟩⟩
    let text := " -7 / 2*3 - 007+9223372036854775808 / 0"
    tokenize text = .ok sum.tokens ∧ sum.worth = 0x7fffffffffffffff - 16 ∧
    ∃ value, value.toInt = sum.worth ∧
      (roll text ({} : Highest)).result = .ok (.single value) := by
  intro sum text
  let pieces := [" ", "", " ", " ", "", "", " ", " ", "", "", " ", " "].zip sum.tokens
  have blanks : ∀ piece ∈ pieces, Blank piece.1 := by decide +kernel
  have text_eq : joined pieces "" = text := by decide +kernel
  have worth_eq : sum.worth = 0x7fffffffffffffff - 16 := by decide +kernel
  obtain ⟨cut, tree, value, -, -, same, rolled⟩ :=
    roll_flatSum sum pieces "" (by decide +kernel) blanks (by decide)
  rw [text_eq] at cut rolled
  exact ⟨cut, worth_eq, value, same, rolled _⟩

end DiceCalculator.Dice
