import DiceCalculator.Proofs.Dice.Parsing
import DiceCalculator.Proofs.Evaluation.Exact
import DiceCalculator.Proofs.Evaluation.Productions

/-!
# Evaluation agrees with exact arithmetic

As long as all that a reckoning meets fits into the calculator, evaluation
without a limit comes to the same numbers and draws the same dice.
-/

namespace DiceCalculator

open RollM

variable {α β γ δ σ : Type}

/-- If all that the reckoning meets fits, the computation comes to a related result in every
context without a limit, and does the same to the roller. -/
def Agrees (related : α → β → Prop) (computation : RollM σ α) (reckoning : Reckon σ β) : Prop :=
  ∀ rolls roller, (∀ encounter ∈ (reckoning roller).met, encounter.Fits) →
    ∃ a later,
      computation.runIn ⟨none, rolls, roller⟩ = (.ok a, ⟨none, later, (reckoning roller).roller⟩) ∧
      related a (reckoning roller).result

/-- The value is the number. -/
def Value.Is (value : Value) (n : Int) : Prop :=
  value.toInt = n

theorem Value.is_face (face : Face) : (clamp face.toNat).Is face.toNat := by
  have := face.toNat_lt
  exact toInt_clamp_of_mem (by omega) (by omega)

namespace Agrees

variable {related : α → β → Prop} {relatedLater : γ → δ → Prop}

theorem pure {a : α} {b : β} (same : related a b) :
    Agrees related (pure a : RollM σ α) (pure b) := by
  intro rolls roller _
  exact ⟨a, rolls, rfl, same⟩

theorem bind {first : RollM σ α} {reckoning : Reckon σ β} {next : α → RollM σ γ}
    {after : β → Reckon σ δ} (agrees : Agrees related first reckoning)
    (each : ∀ a b, related a b → Agrees relatedLater (next a) (after b)) :
    Agrees relatedLater (first >>= next) (reckoning >>= after) := by
  intro rolls roller fits
  obtain ⟨fitsFirst, fitsNext⟩ := List.forall_mem_append.1 fits
  obtain ⟨a, middle, run, same⟩ := agrees rolls roller fitsFirst
  obtain ⟨c, later, runNext, sameLater⟩ := each _ _ same middle _ fitsNext
  exact ⟨c, later, (runIn_bind_of_ok run).trans runNext, sameLater⟩

/-- What a reckoning meets may be taken to fit. -/
theorem meet {encounter : Encounter} {computation : RollM σ α} {reckoning : Reckon σ β}
    (agrees : encounter.Fits → Agrees related computation reckoning) :
    Agrees related computation (do Reckon.meet encounter; reckoning) := by
  intro rolls roller fits
  obtain ⟨fitsFirst, fitsNext⟩ := List.forall_mem_append.1 fits
  exact agrees (List.forall_mem_singleton.1 fitsFirst) rolls roller fitsNext

theorem request (n : Nat) {computation : RollM σ α} {reckoning : Reckon σ β}
    (agrees : Agrees related computation reckoning) :
    Agrees related (do request n; computation) reckoning := by
  intro rolls roller fits
  obtain ⟨a, later, run, same⟩ := agrees _ roller fits
  exact ⟨a, later, run, same⟩

theorem rollDie [Roller σ] (sides : Sides) :
    Agrees (fun face n => (Value.clamp face.toNat).Is n) (rollDie sides : RollM σ Face)
      (Reckon.draw sides) :=
  .request 1 fun rolls _ _ => ⟨_, rolls, rfl, Value.is_face _⟩

theorem clamp {n : Int} {value : Value} (same : value = .clamp n) :
    Agrees (σ := σ) Value.Is (Pure.pure value) (Reckon.number n) := by
  refine .meet fun fits => .pure ?_
  rw [same]
  exact Value.toInt_clamp_of_mem fits.1 fits.2

theorem addRounds {round : RollM σ Value} {each : Reckon σ Int} (agrees : Agrees Value.Is round each)
    (n : Nat) {total : Value} {sum : Int} (same : total.Is sum) :
    Agrees Value.Is (Dice.addRounds round n total) (each.sum n sum) := by
  induction n generalizing total sum with
  | zero => exact .pure same
  | succ n inductionHypothesis =>
    refine agrees.bind fun value summand sameSummand => ?_
    have added : total + value = .clamp (sum + summand) := by
      rw [Value.add_eq, same, sameSummand]
    exact (clamp added).bind fun _ _ => inductionHypothesis

theorem map {computation : RollM σ α} {reckoning : Reckon σ β} {f : α → γ}
    {relatedLater : γ → β → Prop} (agrees : Agrees related computation reckoning)
    (each : ∀ a b, related a b → relatedLater (f a) b) :
    Agrees relatedLater (do return f (← computation)) reckoning := by
  intro rolls roller fits
  obtain ⟨a, later, run, same⟩ := agrees rolls roller fits
  exact ⟨f a, later, runIn_bind_of_ok run, each _ _ same⟩

end Agrees

/-- The values are the numbers. -/
def Values.Are (values : Values) (ns : List Int) : Prop :=
  values.toList.map Value.toInt = ns

theorem Values.are_single {value : Value} {n : Int} (same : value.Is n) :
    (Values.single value).Are [n] :=
  congrArg (fun n => [n]) same

theorem Values.Are.first {values : Values} {n : Int} (same : values.Are [n]) : values.first.Is n :=
  (List.cons.inj same).1

/-- The computation comes to one value, and this agrees with the reckoning. -/
abbrev AgreesOne (computation : RollM σ Values) (reckoning : Reckon σ Int) : Prop :=
  Agrees (fun values n => values.Are [n]) computation reckoning

theorem agreesOne_single {value : Value} {n : Int} (same : value = .clamp n) :
    AgreesOne (σ := σ) (Pure.pure (.single value)) (Reckon.number n) :=
  (Agrees.clamp same).map fun _ _ => Values.are_single

theorem AgreesOne.leading {computation : RollM σ Values} {reckoning : Reckon σ Int}
    (agrees : AgreesOne computation reckoning) :
    Agrees Value.Is (Dice.leading computation) reckoning :=
  agrees.map fun _ _ => Values.Are.first

theorem Value.neg_one_mul (b : Value) : -1 * b = .clamp (-b.toInt) := by
  have one : (-1 : Value).toInt = -1 := by decide
  rw [mul_eq, one, Int.neg_one_mul]

theorem Value.one_mul (b : Value) : 1 * b = b := by
  have one : (1 : Value).toInt = 1 := by decide
  rw [mul_eq, one, Int.one_mul, clamp_toInt]

section Arithmetic

variable {a b : Value} {m n : Int} (sameLeft : a.Is m) (sameRight : b.Is n)

include sameLeft sameRight

theorem agrees_quotient :
    AgreesOne (σ := σ) (pure (.single (a / b)))
      (do Reckon.meet (.divisor n); Reckon.number (m.tdiv n)) := by
  refine .meet fun (fits : n ≠ 0) => agreesOne_single ?_
  rw [← sameRight] at fits
  rw [Value.div_eq_of_ne_zero fits, sameLeft, sameRight]

theorem agrees_product : AgreesOne (σ := σ) (pure (.single (a * b))) (Reckon.number (m * n)) := by
  apply agreesOne_single
  rw [Value.mul_eq, sameLeft, sameRight]

theorem agrees_sum : AgreesOne (σ := σ) (pure (.single (a + b))) (Reckon.number (m + n)) := by
  apply agreesOne_single
  rw [Value.add_eq, sameLeft, sameRight]

/-- A difference is the sum with the negative, which has to be a value too. -/
theorem agrees_difference :
    AgreesOne (σ := σ) (pure (.single (a + -1 * b)))
      (do Reckon.meet (.number (-n)); Reckon.number (m - n)) := by
  refine .meet fun fits => ?_
  have negative : (-1 * b).Is (-n) := by
    rw [Value.neg_one_mul, sameRight]
    exact Value.toInt_clamp_of_mem fits.1 fits.2
  exact agrees_sum sameLeft negative

end Arithmetic

namespace Dice

variable [Roller σ]

theorem agrees_die {token : Token} (spells : Spells .dice token.text.toList) :
    AgreesOne (evaluate (.leaf .die token) : RollM σ Values) (worth (.leaf .die token)) := by
  rw [evaluate_die, sidesOf?_eq spells]
  refine .meet fun (fits : spelled token.text.toList.tail < 0x100000000) => ?_
  by_cases something : 0 < spelled token.text.toList.tail
  · have within : min (spelled token.text.toList.tail) 0xffffffff =
        spelled token.text.toList.tail := by
      omega
    simp only [Sides.ofNat?, something, fits, within, and_self, ↓reduceDIte]
    exact (Agrees.rollDie _).map fun _ _ => Values.are_single
  · simp only [Sides.ofNat?, something, false_and, ↓reduceDIte]
    exact .pure (Values.are_single rfl)

theorem Derives.agrees {X : Nonterminal} {tree : Tree Action} (derivation : Derives X tree)
    (valued : X ∉ [.plusMinusOp, .multDivOp, .expr])
    (spells : ∀ token ∈ tree.tokens, Spells token.kind token.text.toList) :
    AgreesOne (evaluate tree : RollM σ Values) (worth tree) := by
  induction derivation with
  | plusMinusOp | multDivOp | list | only => simp at valued
  | word | name => exact .pure (Values.are_single rfl)
  | dotted => exact .pure (Values.are_single rfl)
  | @number token kind =>
    have row : Row digits token.text.toList := by
      simpa [kind, Spells] using spells token (List.mem_singleton_self token)
    rw [evaluate_number]
    exact .meet fun fits => .pure (Values.are_single (toInt_ofNumeral row fits.2))
  | @die token kind => exact agrees_die (kind ▸ spells token (List.mem_singleton_self token))
  | reference first inductionHypothesis | operand first inductionHypothesis
  | single first inductionHypothesis | value first inductionHypothesis =>
    rw [Tree.tokens_one] at spells
    rw [evaluate_same first.isLiteral_eq_false]
    exact inductionHypothesis (by simp) spells
  | nested _ inner _ inductionHypothesis =>
    rw [Tree.tokens_three, List.forall_mem_append, List.forall_mem_append] at spells
    rw [evaluate_nested _ _ inner.isLiteral_eq_false]
    exact inductionHypothesis (by simp) spells.2.1
  | scale left sign right first _ second =>
    rw [Tree.tokens_three, List.forall_mem_append, List.forall_mem_append] at spells
    obtain ⟨spellsLeft, spellsSign, spellsRight⟩ := spells
    cases sign with
    | @multDivOp mark kind =>
      have spellsMark := kind ▸ spellsSign mark (List.mem_singleton_self mark)
      rw [evaluate_scale mark left.isLiteral_eq_false right.isLiteral_eq_false,
        signOf_factorOp spellsMark]
      refine (first (by simp) spellsLeft).leading.bind fun a m sameLeft => ?_
      refine (second (by simp) spellsRight).leading.bind fun b n sameRight => ?_
      by_cases slash : mark.text = "/"
      · simp only [slash, ↓reduceIte]
        exact agrees_quotient sameLeft sameRight
      · simp only [slash, ↓reduceIte]
        exact agrees_product sameLeft sameRight
  | combine left sign right first _ second =>
    rw [Tree.tokens_three, List.forall_mem_append, List.forall_mem_append] at spells
    obtain ⟨spellsLeft, spellsSign, spellsRight⟩ := spells
    cases sign with
    | @plusMinusOp mark kind =>
      have spellsMark := kind ▸ spellsSign mark (List.mem_singleton_self mark)
      rw [evaluate_combine mark left.isLiteral_eq_false right.isLiteral_eq_false,
        signOf_arithOp spellsMark]
      refine (first (by simp) spellsLeft).leading.bind fun a m sameLeft => ?_
      refine (second (by simp) spellsRight).leading.bind fun b n sameRight => ?_
      by_cases minus : mark.text = "-"
      · simp only [minus, ↓reduceIte]
        exact agrees_difference sameLeft sameRight
      · simp only [minus, ↓reduceIte, Value.one_mul]
        exact agrees_sum sameLeft sameRight
  | negate _ inner inductionHypothesis =>
    rw [Tree.tokens_two, List.forall_mem_append] at spells
    rw [evaluate_negate _ inner.isLiteral_eq_false]
    refine (inductionHypothesis (by simp) spells.2).leading.bind fun a m same => agreesOne_single ?_
    rw [Value.neg_eq, same]
  | rounds count inner first second =>
    rw [Tree.tokens_two, List.forall_mem_append] at spells
    rw [evaluate_rounds count.isLiteral_eq_false inner.isLiteral_eq_false]
    refine (first (by simp) spells.1).leading.bind fun n m same => .request _ ?_
    rw [same]
    have round := (second (by simp) spells.2).leading
    exact (round.addRounds m.toNat rfl).map fun _ _ => Values.are_single
  | assign path _ inner _ inductionHypothesis =>
    rw [Tree.tokens_three, List.forall_mem_append, List.forall_mem_append] at spells
    rw [evaluate_assign _ path.isLiteral_eq_false inner.isLiteral_eq_false]
    exact inductionHypothesis (by simp) spells.2.2

theorem Derives.agrees_worths {tree : Tree Action} (derivation : Derives .expr tree)
    (spells : ∀ token ∈ tree.tokens, Spells token.kind token.text.toList) :
    Agrees Values.Are (evaluate tree : RollM σ Values) (worths tree) := by
  generalize whole : Nonterminal.expr = X at derivation
  induction derivation with
  | list front _ last inductionHypothesis _ =>
    rw [Tree.tokens_three, List.forall_mem_append, List.forall_mem_append] at spells
    rw [evaluate_list _ front.isLiteral_eq_false last.isLiteral_eq_false]
    refine (inductionHypothesis spells.1 rfl).bind fun before ns same => ?_
    refine (last.agrees (by simp) spells.2.2).bind fun after n sameLast => .pure ?_
    rw [Values.Are, Values.toList_append, List.map_append, same, sameLast]
  | only last _ =>
    rw [Tree.tokens_one] at spells
    rw [evaluate_same last.isLiteral_eq_false, ← bind_pure (evaluate _)]
    exact (last.agrees (by simp) spells).bind fun _ _ same => .pure same
  | _ => cases whole

/-- As long as every number, die and divisor of the exact reckoning fits, evaluation without a
limit comes to its numbers and leaves the roller as it does. -/
theorem evaluate_exact {text : String} {ts : List Token} {found : Match Action}
    (cut : tokenize text = .ok ts) (parsed : (grammar.parse ts).found = some found) (roller : σ)
    (fits : ∀ encounter ∈ (worths found.tree roller).met, encounter.Fits) :
    ∃ values later, (evaluate found.tree).runIn (.fresh none roller) = (.ok values, later) ∧
      values.toList.map Value.toInt = (worths found.tree roller).result ∧
      later.roller = (worths found.tree roller).roller := by
  obtain ⟨answers, reading, found_eq⟩ := exists_reading cut
  have answered : answers ⟨Nonterminal.expr.place, ts.length⟩ = some found :=
    (found_eq .expr).symm.trans parsed
  obtain ⟨derivation, -, suffix⟩ := reading.derives_suffix answered
  have spells : ∀ token ∈ found.tree.tokens, Spells token.kind token.text.toList :=
    fun token member => spells_of_mem cut token (suffix.subset member)
  obtain ⟨values, later, run, same⟩ := derivation.agrees_worths spells 0 roller fits
  exact ⟨values, _, run, same, rfl⟩

/-- Signs, quotients, rounds and a product with a negative number, all within the range. -/
theorem evaluate_exact_two_parts :
    let text := "2 d6 - 7 / 2, x = -(3 * 4)"
    let tree : Tree Action := .branch .list [
      .branch .same [.branch .same [.branch .combine [
        .branch .rounds [
          .branch .same [.leaf .number ⟨.number, "2"⟩],
          .branch .same [.leaf .die ⟨.dice, "d6"⟩]],
        .leaf .sign ⟨.arithOp, "-"⟩,
        .branch .scale [
          .branch .same [.leaf .number ⟨.number, "7"⟩],
          .leaf .sign ⟨.factorOp, "/"⟩,
          .leaf .number ⟨.number, "2"⟩]]]],
      .literal ⟨.literal, ","⟩,
      .branch .assign [
        .leaf .name ⟨.charSequence, "x"⟩,
        .literal ⟨.literal, "="⟩,
        .branch .negate [
          .literal ⟨.arithOp, "-"⟩,
          .branch .same [.branch .same [
            .literal ⟨.literal, "("⟩,
            .branch .same [.branch .scale [
              .branch .same [.leaf .number ⟨.number, "3"⟩],
              .leaf .sign ⟨.factorOp, "*"⟩,
              .leaf .number ⟨.number, "4"⟩]],
            .literal ⟨.literal, ")"⟩]]]]]
    let roller : Highest := ⟨0⟩
    tokenize text = .ok tree.tokens ∧ (grammar.parse tree.tokens).found = some ⟨0, tree⟩ ∧
    (∀ encounter ∈ (worths tree roller).met, encounter.Fits) ∧
    (worths tree roller).result = [9, -12] ∧
    ∃ values later, (evaluate tree).runIn (.fresh none roller) = (.ok values, later) ∧
      values.toList.map Value.toInt = (worths tree roller).result ∧
      later.roller = (worths tree roller).roller := by
  intro text tree roller
  have cut : tokenize text = .ok tree.tokens := by decide +kernel
  have parsed : (grammar.parse tree.tokens).found = some ⟨0, tree⟩ := by decide +kernel
  have fits : ∀ encounter ∈ (worths tree roller).met, encounter.Fits := by decide +kernel
  have whole := evaluate_exact cut parsed roller fits
  exact ⟨cut, parsed, fits, by decide +kernel, whole⟩

end Dice

end DiceCalculator
