import DiceCalculator.Proofs.Evaluation.Denotation

/-!
# Printed values are expressions

The values of an outcome are printed as decimals with commas between them, and
such a text is an expression again: a list whose items are numbers, some of them
behind a minus sign. It has the printed values, and no die is rolled for them.
The least value is an exception, since its number is too large without the sign.
-/

namespace DiceCalculator

/-- The values as they are printed, without the brackets around them. -/
def Values.listing (values : Values) : String :=
  Text.commaSeparated (values.toList.map Value.display)

namespace Dice

open Pattern

theorem display_of_nonneg {a : Value} (nonneg : 0 ≤ a.toInt) :
    a.display = (numeral a.toInt.natAbs).text := by
  rw [Value.display, Int.repr_eq_if, if_pos nonneg, numeral]
  congr 1
  omega

theorem display_of_neg {a : Value} (negative : a.toInt < 0) :
    a.display = minus.text ++ (numeral a.toInt.natAbs).text := by
  rw [Value.display, Int.repr_eq_if, if_neg (Int.not_le.2 negative), minus, numeral]
  congr 2
  omega

/-- The number as a term. -/
def termOf (n : Nat) : Tree Action :=
  .branch .same [.leaf .number (numeral n)]

/-- The value as an item of a list. -/
def itemOf (a : Value) : Tree Action :=
  let term := termOf a.toInt.natAbs
  .branch .same
    [if a.toInt < 0 then .branch .negate [.literal minus, term] else .branch .same [term]]

/-- The values as an expression. -/
def listOf (values : Values) : Tree Action :=
  values.others.foldl (fun front a => .branch .list [front, .literal comma, itemOf a])
    (.branch .same [itemOf values.first])

theorem listOf_append (first : Value) (others : List Value) (last : Value) :
    listOf ⟨first, others ++ [last]⟩ =
      .branch .list [listOf ⟨first, others⟩, .literal comma, itemOf last] := by
  simp only [listOf, List.foldl_append, List.foldl_cons, List.foldl_nil]

theorem derives_termOf (n : Nat) : Derives .term (termOf n) :=
  .operand (.number rfl)

theorem derives_itemOf (a : Value) : Derives .assignment (itemOf a) := by
  refine .value ?_
  split
  · exact .negate rfl (derives_termOf _)
  · exact .single (derives_termOf _)

theorem derives_listOf (values : Values) : Derives .expr (listOf values) := by
  obtain ⟨first, others⟩ := values
  induction others using List.reverseRecOn with
  | nil => exact .only (derives_itemOf first)
  | append_singleton others last inductionHypothesis =>
    rw [listOf_append]
    exact .list inductionHypothesis rfl (derives_itemOf last)

theorem tokens_itemOf_of_nonneg {a : Value} (nonneg : 0 ≤ a.toInt) :
    (itemOf a).tokens = [numeral a.toInt.natAbs] := by
  simp [itemOf, termOf, Tree.tokens, Tree.tokensOf, Int.not_lt.2 nonneg]

theorem tokens_itemOf_of_neg {a : Value} (negative : a.toInt < 0) :
    (itemOf a).tokens = [minus, numeral a.toInt.natAbs] := by
  simp [itemOf, termOf, Tree.tokens, Tree.tokensOf, negative]

theorem tokens_listOf (values : Values) :
    (listOf values).tokens =
      (itemOf values.first).tokens ++ values.others.flatMap fun a => comma :: (itemOf a).tokens := by
  obtain ⟨first, others⟩ := values
  induction others using List.reverseRecOn with
  | nil => simp [listOf, Tree.tokens_one]
  | append_singleton others last inductionHypothesis =>
    rw [listOf_append, Tree.tokens_three, inductionHypothesis]
    simp [Tree.tokens]

section Cutting

theorem ends_display (a : Value) (rest : String) : Ends .whitespace (a.display ++ rest).toList := by
  by_cases negative : a.toInt < 0
  · rw [display_of_neg negative, String.append_assoc]
    exact ends_token wellFormed_minus _
  · rw [display_of_nonneg (Int.not_lt.1 negative)]
    exact ends_token (wellFormed_numeral _) rest

/-- A printed value is cut into its number, and the minus sign if it has one. -/
theorem tokenize_display (a : Value) {rest : String} (stops : Stops digits rest.toList) :
    tokenize (a.display ++ rest) = (tokenize rest).map ((itemOf a).tokens ++ ·) := by
  have wellFormed := wellFormed_numeral a.toInt.natAbs
  have number := tokenize_token wellFormed ⟨stops, nofun⟩
  by_cases negative : a.toInt < 0
  · have sign (rest : String) :
        tokenize (minus.text ++ rest) = (tokenize rest).map (minus :: ·) :=
      tokenize_token wellFormed_minus (breaks_after_mark (by simp [marks, minus]) _)
    rw [display_of_neg negative, tokens_itemOf_of_neg negative, String.append_assoc, sign, number]
    cases tokenize rest <;> rfl
  · have nonneg := Int.not_lt.1 negative
    rw [display_of_nonneg nonneg, tokens_itemOf_of_nonneg nonneg, number]
    rfl

theorem listing_cons (first next : Value) (others : List Value) :
    Values.listing ⟨first, next :: others⟩ =
      first.display ++ (comma.text ++ (" " ++ Values.listing ⟨next, others⟩)) := by
  have separator : ", " = comma.text ++ " " := by decide
  have cut : Values.listing ⟨first, next :: others⟩ =
      first.display ++ ", " ++ Values.listing ⟨next, others⟩ := rfl
  rw [cut, separator, String.append_assoc, String.append_assoc]

theorem exists_listing_eq (first : Value) (others : List Value) :
    ∃ rest, Values.listing ⟨first, others⟩ = first.display ++ rest := by
  cases others with
  | nil => exact ⟨"", String.append_empty.symm⟩
  | cons next others => exact ⟨_, listing_cons first next others⟩

theorem tokenize_listing (values : Values) :
    tokenize values.listing = .ok (listOf values).tokens := by
  obtain ⟨first, others⟩ := values
  rw [tokens_listOf]
  induction others generalizing first with
  | nil =>
    have alone : tokenize (first.display ++ "") = _ := tokenize_display first stops_nil
    rw [String.append_empty, tokenize, tokenize, Tokenizer.tokenize, Tokenizer.tokenize,
      String.toList_empty, Tokenizer.pieces] at alone
    exact alone
  | cons next others inductionHypothesis =>
    obtain ⟨rest, begins⟩ := exists_listing_eq next others
    have ends : Ends .whitespace (Values.listing ⟨next, others⟩).toList :=
      begins ▸ ends_display next rest
    have blank : Blank " " := List.all_eq_true.1 rfl
    have mark (rest : String) :
        tokenize (comma.text ++ rest) = (tokenize rest).map (comma :: ·) :=
      tokenize_token wellFormed_comma (breaks_after_mark (by simp [marks, comma]) _)
    have stops : Stops digits (comma.text ++ (" " ++ Values.listing ⟨next, others⟩)).toList := by
      rw [String.toList_append]
      exact stops_cons.2 rfl
    rw [listing_cons, tokenize_display first stops, mark, tokenize_gap blank ends,
      inductionHypothesis]
    rfl

end Cutting

section Evaluation

variable {σ : Type} [Roller σ]

theorem evaluate_termOf (n : Nat) :
    (evaluate (termOf n) : RollM σ Values) = pure (.single (.ofNumeral n.repr)) := by
  rw [termOf, evaluate_same rfl, evaluate_number, numeral]

/-- The number of a value is no greater than a value can be, unless it is the least. -/
theorem toInt_ofNumeral_natAbs {a : Value} (inside : a ≠ .least) :
    (Value.ofNumeral a.toInt.natAbs.repr).toInt = a.toInt.natAbs := by
  have least_le := a.least_le
  have le_greatest := a.le_greatest
  have least_ne : a.toInt ≠ -0x8000000000000000 := fun same => inside (Value.ext same)
  have spelled_eq := spelled_repr a.toInt.natAbs
  rw [toInt_ofNumeral (row_repr _) (by omega), spelled_eq]

theorem evaluate_itemOf {a : Value} (inside : a ≠ .least) :
    (evaluate (itemOf a) : RollM σ Values) = pure (.single a) := by
  have number_eq := toInt_ofNumeral_natAbs inside
  rw [itemOf]
  by_cases negative : a.toInt < 0
  · rw [if_pos negative, evaluate_same rfl, evaluate_negate _ rfl, evaluate_termOf]
    have turned : -Value.ofNumeral a.toInt.natAbs.repr = a := by
      have opposite : -(a.toInt.natAbs : Int) = a.toInt := by omega
      rw [Value.neg_eq, number_eq, opposite, Value.clamp_toInt]
    simp only [leading, pure_bind, Values.single, turned]
  · rw [if_neg negative, evaluate_same rfl, evaluate_same rfl, evaluate_termOf]
    have same : Value.ofNumeral a.toInt.natAbs.repr = a := Value.ext (by omega)
    rw [same]

theorem evaluate_listOf {values : Values} (inside : ∀ a ∈ values.toList, a ≠ .least) :
    (evaluate (listOf values) : RollM σ Values) = pure values := by
  obtain ⟨first, others⟩ := values
  induction others using List.reverseRecOn with
  | nil =>
    rw [listOf, List.foldl_nil, evaluate_same rfl]
    exact evaluate_itemOf (inside first List.mem_cons_self)
  | append_singleton others last inductionHypothesis =>
    have before := inductionHypothesis fun a member =>
      inside a (List.cons_subset_cons first (List.subset_append_left others [last]) member)
    have after : (evaluate (itemOf last) : RollM σ Values) = pure (.single last) :=
      evaluate_itemOf (inside last (by simp [Values.toList]))
    rw [listOf_append, evaluate_list _ (derives_listOf _).isLiteral_eq_false rfl, before, after]
    rfl

end Evaluation

end Dice

/-- The text that is printed of the values of an outcome, whatever its tokens are, rolls these values
again unless the least one is among them. No die is drawn for it, and none is counted. -/
theorem roll_listing {σ : Type} [Roller σ] (values : Values)
    (inside : ∀ a ∈ values.toList, a ≠ .least) (roller : σ) :
    (∀ tokens, (Outcome.mk tokens values).display =
      "[" ++ Text.commaSeparated (tokens.map Token.display) ++ "]\n[" ++ values.listing ++ "]") ∧
    (roll values.listing roller).result = .ok values ∧
    ((Context.fresh none roller).rollText values.listing).result.2 = .fresh none roller ∧
    ((Context.fresh none roller).recorded.rollText values.listing).result.2.roller.draws = [] := by
  have rolled {σ : Type} [Roller σ] (roller : σ) :
      ((Context.fresh none roller).rollText values.listing).result =
        (.ok ⟨(Dice.listOf values).tokens, values⟩, .fresh none roller) := by
    have denotes : Dice.Denotes .expr (Dice.listOf values).tokens fun _ _ => pure values :=
      ⟨_, Dice.derives_listOf values, rfl, fun _ _ => Dice.evaluate_listOf inside⟩
    exact denotes.result_rollText (Dice.tokenize_listing values) (.fresh none roller)
  refine ⟨?_, ?_, ?_, ?_⟩
  · intro tokens
    have between : "]\n[" = "]" ++ "\n" ++ "[" := by decide
    simp only [Outcome.display, Text.bracketed, Values.listing, between, String.append_assoc]
  · rw [roll, Logged.result_bind, rolled]
    rfl
  · rw [rolled]
  · have recorded : (Context.fresh none roller).recorded = .fresh none ⟨roller, []⟩ := rfl
    rw [recorded, rolled]
    rfl

theorem roll_listing_bounds :
    Outcome.display ⟨[], ⟨-7, [0, .greatest]⟩⟩ = "[]\n[-7, 0, 9223372036854775807]" ∧
      (roll "-7, 0, 9223372036854775807" ({} : Highest)).result = .ok ⟨-7, [0, .greatest]⟩ := by
  have whole := roll_listing ⟨-7, [0, .greatest]⟩ (by decide) ({} : Highest)
  have listing : Values.listing ⟨-7, [0, .greatest]⟩ = "-7, 0, 9223372036854775807" := by decide
  rw [listing] at whole
  exact ⟨whole.1 [], whole.2.1⟩

end DiceCalculator
