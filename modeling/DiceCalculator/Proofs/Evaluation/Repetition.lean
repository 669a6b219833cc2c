import DiceCalculator.Proofs.Evaluation.Expansion
import DiceCalculator.Proofs.Evaluation.Parentheses
import DiceCalculator.Proofs.Evaluation.Saturation

/-!
# Repetition is multiplication

To repeat a term without dice is to multiply by its value. The loop of many
saturating sums and the one saturating product come to the same, for the sums
all go to one side; only a count below zero is a product's matter alone. The
dice of the count are rolled once, before either.
-/

namespace DiceCalculator.Dice

open RollM

variable {σ : Type} [Roller σ] {count term : Computation} {rolls : Nat} {roller later : σ}
  {n v : Value}

section Rounds

variable (counts : ComesTo (count σ) rolls roller (.single n) later)
  (steady : Steady (.single v) (term σ))

include counts steady

/-- The rounds of a steady term come to its product with the count, or with zero for a count below
it. -/
theorem comesTo_repeated :
    ComesTo (repeated count term σ) rolls roller
      (.single (.clamp (max n.toInt 0 * v.toInt))) later := by
  rw [← Int.toNat_eq_max]
  refine counts.leading.bind fun rolls => ?_
  refine Steady.comesTo (.bind (.request _) ?_) rolls later
  refine (steady.leading.addRounds n.toInt.toNat).bind ?_
  exact .pure _

theorem comesTo_product (nonneg : 0 ≤ n.toInt) :
    ComesTo (Operator.multiply.between count term σ) rolls roller
      (.single (.clamp (max n.toInt 0 * v.toInt))) later := by
  rw [max_eq_left nonneg]
  refine counts.leading.bind fun rolls => ?_
  refine Steady.comesTo (steady.leading.bind ?_) rolls later
  exact .pure _

end Rounds

/-- A term and behind it one without dice are parsed as a whole, and so is the product of the first
and the second in parentheses. The rounds come to the exact product of the values, with zero for a
count below it, or to the nearest bound; and so does the product, if the count is not below zero.
Either leaves the roller as the first term by itself does. -/
theorem parse_rounds_diceless {countText termText : String} {cs ts : List Token}
    {count term : Match Action} (cutCount : tokenize countText = .ok cs)
    (cutTerm : tokenize termText = .ok ts)
    (countFound : (grammar.matchRule Place.term cs).found = some count)
    (countWhole : count.tree.tokens = cs)
    (termFound : (grammar.matchRule Place.term ts).found = some term)
    (termWhole : term.tree.tokens = ts) (diceless : Diceless ts) :
    let multiplied := cs ++ Operator.multiply.token :: opening :: (ts ++ [closing])
    ∃ rounds product v,
      (grammar.parse (cs ++ ts)).found = some ⟨0, rounds⟩ ∧ rounds.tokens = cs ++ ts ∧
      (grammar.parse multiplied).found = some ⟨0, product⟩ ∧ product.tokens = multiplied ∧
      ∀ {σ : Type} [Roller σ] (rolls : Nat) (roller : σ), ∃ n later,
        ComesTo (evaluate count.tree) rolls roller (.single n) later ∧
        ComesTo (evaluate term.tree) rolls roller (.single v) roller ∧
        ComesTo (evaluate rounds) rolls roller
          (.single (.clamp (max n.toInt 0 * v.toInt))) later ∧
        (0 ≤ n.toInt → ComesTo (evaluate product) rolls roller
          (.single (.clamp (max n.toInt 0 * v.toInt))) later) := by
  intro multiplied
  have lexicalCount := lexical_of_mem cutCount
  have lexicalTerm := lexical_of_mem cutTerm
  obtain ⟨derivesCount, -⟩ := derives_of_found (X := .term) lexicalCount countFound
  obtain ⟨derivesTerm, -⟩ := derives_of_found (X := .term) lexicalTerm termFound
  have denotesCount := countWhole ▸ derivesCount.denotes
  have denotesTerm := termWhole ▸ derivesTerm.denotes
  have idle := diceless.sidesOf?_eq_none (spells_of_mem cutTerm)
  obtain ⟨v, steady⟩ := derivesTerm.exists_steady_single (by simp) (termWhole ▸ idle)
  have lexicalRounds : ∀ token ∈ cs ++ ts, Lexical token :=
    List.forall_mem_append.2 ⟨lexicalCount, lexicalTerm⟩
  have lexicalProduct : ∀ token ∈ multiplied, Lexical token := by
    have sign := lexical_of_spells (wellFormed_iff.1 Operator.multiply.wellFormed_token).2
    simp only [multiplied, List.forall_mem_append, List.forall_mem_cons]
    exact ⟨lexicalCount, sign, lexical_opening, lexicalTerm, lexical_closing, nofun⟩
  obtain ⟨rounds, roundsFound, roundsTokens, roundsEvaluated⟩ :=
    (denotesCount.rounds denotesTerm).value.only.exists_found lexicalRounds
  have denotesProduct : Denotes .term multiplied _ :=
    Denotes.operation .multiply denotesCount denotesTerm.single.nested
  obtain ⟨product, productFound, productTokens, productEvaluated⟩ :=
    denotesProduct.single.value.only.exists_found lexicalProduct
  refine ⟨rounds, product, v, roundsFound, roundsTokens, productFound, productTokens, ?_⟩
  intro σ _ rolls roller
  obtain ⟨n, later, counts⟩ := derivesCount.exists_comesTo (by simp) rolls roller
  rw [roundsEvaluated, productEvaluated]
  exact ⟨n, later, counts, (steady σ).comesTo rolls roller,
    comesTo_repeated counts (steady σ), comesTo_product counts (steady σ)⟩

/-- Six times the least value, which is the nearest bound. -/
theorem parse_rounds_diceless_least :
    let number (n : Nat) : Tree Action := .branch .same [.leaf .number (numeral n)]
    let die : Tree Action := .branch .same [.leaf .die ⟨.dice, "d6"⟩]
    let least : Tree Action := .branch .same [.branch .same [.literal opening,
      Operator.minus.node (.branch .negate [.literal minus, number 9223372036854775807]) (number 1),
      .literal closing]]
    tokenize "d6" = .ok die.tokens ∧ tokenize "(-9223372036854775807 - 1)" = .ok least.tokens ∧
    (grammar.matchRule Place.term die.tokens).found = some ⟨0, die⟩ ∧
    (grammar.matchRule Place.term least.tokens).found = some ⟨0, least⟩ ∧ Diceless least.tokens ∧
    ∃ rounds product, (grammar.parse (die.tokens ++ least.tokens)).found = some ⟨0, rounds⟩ ∧
      (grammar.parse (die.tokens ++ Operator.multiply.token :: opening ::
        (least.tokens ++ [closing]))).found = some ⟨0, product⟩ ∧
      ComesTo (evaluate rounds) 0 ({} : Highest) (.single .least) ⟨1⟩ ∧
      ComesTo (evaluate product) 0 ({} : Highest) (.single .least) ⟨1⟩ := by
  intro number die least
  have cutDie : tokenize "d6" = .ok die.tokens := by decide +kernel
  have cutLeast : tokenize "(-9223372036854775807 - 1)" = .ok least.tokens := by decide +kernel
  have derivesNumber (n : Nat) : Derives .term (number n) := .operand (.number rfl)
  have derivesDie : Derives .term die := .operand (.die rfl)
  have derivesLeast : Derives .term least :=
    .operand (.nested rfl
      (Operator.minus.derives_node (.negate rfl (derivesNumber _)) (derivesNumber 1)) rfl)
  have foundDie : (grammar.matchRule Place.term die.tokens).found = some ⟨0, die⟩ :=
    found_of_derives (X := .term) derivesDie (lexical_of_mem cutDie)
  have foundLeast : (grammar.matchRule Place.term least.tokens).found = some ⟨0, least⟩ :=
    found_of_derives (X := .term) derivesLeast (lexical_of_mem cutLeast)
  have diceless : Diceless least.tokens := by decide
  obtain ⟨rounds, product, v, roundsFound, -, productFound, -, worth⟩ :=
    parse_rounds_diceless cutDie cutLeast foundDie rfl foundLeast rfl diceless
  obtain ⟨n, later, counts, value, roundsWorth, productWorth⟩ := worth 0 ({} : Highest)
  have six : ComesTo (evaluate die) 0 ({} : Highest) (.single 6) ⟨1⟩ := ⟨1, rfl⟩
  have bound : ComesTo (evaluate least) 0 ({} : Highest) (.single .least) {} := ⟨0, rfl⟩
  obtain ⟨counted, rfl⟩ := counts.eq six
  obtain rfl : n = 6 := congrArg Values.first counted
  obtain rfl : v = .least := congrArg Values.first (value.eq bound).1
  exact ⟨cutDie, cutLeast, foundDie, foundLeast, diceless, rounds, product, roundsFound,
    productFound, roundsWorth, productWorth (by decide)⟩

end DiceCalculator.Dice
