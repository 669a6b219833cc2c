import DiceCalculator.Proofs.Evaluation.Denotation
import DiceCalculator.Proofs.Evaluation.Simulation

/-!
# Lists put together

Lists are built from the left, one item after the other. Two of them with a
comma between them are a list again, whose tree is not made up of the two trees:
the items of the second list have moved to the top. It still evaluates the first
list and then the second. A comma that is a token by itself only separates
items, so all of the text that can be parsed up to it is parsed without what
follows it, and the other way round.
-/

namespace DiceCalculator

theorem Values.append_assoc (a b c : Values) : a ++ b ++ c = a ++ (b ++ c) := by
  rw [← toList_inj]
  simp only [toList_append, List.append_assoc]

namespace Dice

section Computations

variable (first second third : Computation) {σ : Type} [Roller σ]

theorem inTurn_assoc :
    inTurn (inTurn first second) third σ = inTurn first (inTurn second third) σ := by
  simp only [inTurn, bind_assoc, pure_bind, Values.append_assoc]

theorem runIn_inTurn (context : Context σ) :
    (inTurn first second σ).runIn context =
      match (first σ).runIn context with
      | (.error error, later) => (.error error, later)
      | (.ok before, later) =>
        match (second σ).runIn later with
        | (.error error, last) => (.error error, last)
        | (.ok after, last) => (.ok (before ++ after), last) := by
  rw [inTurn, RollM.runIn_bind]
  rcases (first σ).runIn context with ⟨error | before, later⟩
  · rfl
  · dsimp only
    rw [RollM.runIn_bind]
    rcases (second σ).runIn later with ⟨error | after, last⟩ <;> rfl

end Computations

section Trees

variable {tree : Tree Action} {front last : List Token} {mark : Token}

/-- What is in front of a comma is an expression by itself. -/
theorem Derives.front_of_comma (derivation : Derives .expr tree)
    (lexical : ∀ token ∈ tree.tokens, Lexical token) (isComma : mark.text = ",")
    (cut : tree.tokens = front ++ mark :: last) : front ∈ Nonterminal.expr.language := by
  generalize whole : Nonterminal.expr = X at derivation
  induction derivation generalizing last with
  | @only item itemDerives _ =>
    rw [Tree.tokens_one] at cut lexical
    have member : mark ∈ item.tokens := by simp [cut]
    have barred := itemDerives.text_notMem_barred member (lexical mark member)
    exact absurd (isComma ▸ List.mem_singleton_self _) barred
  | @list before comma item beforeDerives _ itemDerives inductionHypothesis _ =>
    rw [Tree.tokens_three, List.forall_mem_append, List.forall_mem_append] at lexical
    rw [Tree.tokens_three] at cut
    have noComma : mark ∉ item.tokens := by
      intro member
      have barred := itemDerives.text_notMem_barred member (lexical.2.2 mark member)
      exact absurd (isComma ▸ List.mem_singleton_self _) barred
    have here : ∃ tree, Derives .expr tree ∧ tree.tokens = before.tokens :=
      ⟨before, beforeDerives, rfl⟩
    -- The comma is the one in front of the last item, or one of those before it.
    rcases List.append_eq_append_iff.1 cut with ⟨between, rfl, rest⟩ | ⟨between, earlier, rest⟩
    · cases between with
      | nil => exact (List.append_nil before.tokens).symm ▸ here
      | cons token between =>
        obtain ⟨-, rest⟩ := List.cons.inj rest
        exact absurd (by simp [show item.tokens = _ from rest]) noComma
    · cases between with
      | nil => exact (earlier.trans (List.append_nil front)) ▸ here
      | cons token between =>
        obtain ⟨rfl, -⟩ := List.cons.inj rest
        exact inductionHypothesis lexical.1 earlier rfl
  | _ => cases whole

/-- A list after a comma is appended item by item. -/
theorem Derives.append_list {first second : Tree Action} (firstDerives : Derives .expr first)
    (secondDerives : Derives .expr second) (isComma : mark.text = ",") :
    Denotes .expr (first.tokens ++ mark :: second.tokens)
      (inTurn (fun _ _ => evaluate first) fun _ _ => evaluate second) := by
  generalize whole : Nonterminal.expr = X at secondDerives
  induction secondDerives with
  | only item _ =>
    rw [Tree.tokens_one]
    refine (firstDerives.denotes.list isComma item.denotes).congr fun σ _ => ?_
    simp only [inTurn, evaluate_same item.isLiteral_eq_false]
  | list before comma item inductionHypothesis _ =>
    rw [Tree.tokens_three]
    -- the items before the last one have been appended already
    have longer := (inductionHypothesis rfl).list comma item.denotes
    rw [List.append_assoc, List.cons_append] at longer
    refine longer.congr fun σ _ => ?_
    rw [inTurn_assoc]
    simp only [inTurn, evaluate_list _ before.isLiteral_eq_false item.isLiteral_eq_false]
  | _ => cases whole

end Trees

section Parsing

variable {front last : List Token} {answers : Attempt → Option (Match Action)}
  {found : Match Action}

/-- If more is found than the second list, then this is an expression in front of the comma. -/
theorem Reading.exists_front (reading : Reading (front ++ comma :: last) answers)
    (answered : answers ⟨Place.expr, (front ++ comma :: last).length⟩ = some found)
    (longer : last.length < found.tree.tokens.length) :
    ∃ before, before <:+ front ∧ found.tree.tokens = before ++ comma :: last ∧
      before ∈ Nonterminal.expr.language := by
  obtain ⟨derivation, -, suffix⟩ := reading.derives_suffix (X := .expr) answered
  have within : comma :: last <:+ found.tree.tokens :=
    List.suffix_of_suffix_length_le (List.suffix_append front _) suffix longer
  obtain ⟨before, same⟩ := within
  have lexical : ∀ token ∈ found.tree.tokens, Lexical token :=
    fun token member => reading.lexical token (suffix.subset member)
  refine ⟨before, ?_, same.symm, derivation.front_of_comma lexical rfl same.symm⟩
  obtain ⟨skipped, whole⟩ := suffix
  rw [← same, ← List.append_assoc] at whole
  exact ⟨skipped, List.append_cancel_right whole⟩

theorem Reading.start_eq {ts : List Token} (reading : Reading ts answers)
    (answered : answers ⟨Place.expr, ts.length⟩ = some found) :
    found.start + found.tree.tokens.length = ts.length := by
  obtain ⟨-, occurs⟩ := reading.derives (X := .expr) le_rfl answered
  exact occurs.length_eq

/-- The expression in front of the comma is no longer than by itself. -/
theorem Reading.found_append (reading : Reading (front ++ comma :: last) answers)
    {first : Match Action} {second : Tree Action} (longest : Longest .expr front first)
    (secondDerives : Derives .expr second) (wholly : second.tokens = last) :
    ∃ tree, answers ⟨Place.expr, (front ++ comma :: last).length⟩ = some ⟨first.start, tree⟩ ∧
      tree.tokens = first.tree.tokens ++ comma :: last ∧
      ∀ (σ : Type) [Roller σ],
        evaluate tree = inTurn (fun _ _ => evaluate first.tree) (fun _ _ => evaluate second) σ := by
  obtain ⟨tree, derivation, written, evaluated⟩ :=
    longest.derives.append_list secondDerives (show comma.text = "," from rfl)
  rw [wholly] at written
  have suffix : tree.tokens <:+ front ++ comma :: last := by
    obtain ⟨skipped, whole⟩ : first.tree.tokens <:+ front :=
      longest.tokens_eq ▸ List.drop_suffix ..
    exact ⟨skipped, by rw [written, ← List.append_assoc, whole]⟩
  obtain ⟨⟨start, joined⟩, answered, enough, unique⟩ :=
    reading.exists_longest (X := .expr) derivation suffix
  have longer : last.length < joined.tokens.length := by
    simp only [written, List.length_append, List.length_cons] at enough
    omega
  -- what is found in front of the comma would be found without it too
  obtain ⟨before, isSuffix, joined_eq, isExpr⟩ := reading.exists_front answered longer
  have before_le := longest.longest before isSuffix isExpr
  have length_eq : tree.tokens.length = joined.tokens.length := by
    simp only [joined_eq, written, List.length_append] at before_le enough ⊢
    omega
  obtain ⟨-, -, joinedSuffix⟩ := reading.derives_suffix (X := .expr) answered
  have within := List.suffix_of_suffix_length_le suffix joinedSuffix (le_of_eq length_eq)
  obtain rfl := unique (within.eq_of_length length_eq)
  have start_eq : start = first.start := by
    have stop := reading.start_eq answered
    have stopFirst := congrArg List.length longest.tokens_eq
    have something := List.length_pos_of_ne_nil longest.nonempty
    simp only [written, List.length_append, List.length_drop] at stop stopFirst
    omega
  exact ⟨tree, start_eq ▸ answered, written, evaluated⟩

theorem Reading.found_alone (reading : Reading (front ++ comma :: last) answers)
    {second : Tree Action} (nowhere : ∀ word, word <:+ front → word ≠ [] →
      word ∉ Nonterminal.expr.language)
    (secondDerives : Derives .expr second) (wholly : second.tokens = last) :
    answers ⟨Place.expr, (front ++ comma :: last).length⟩ =
      some ⟨front.length + 1, second⟩ := by
  have suffix : second.tokens <:+ front ++ comma :: last :=
    ⟨front ++ [comma], by rw [wholly, List.append_assoc, List.singleton_append]⟩
  obtain ⟨⟨start, joined⟩, answered, enough, unique⟩ :=
    reading.exists_longest (X := .expr) secondDerives suffix
  have shorter : ¬last.length < joined.tokens.length := by
    intro longer
    obtain ⟨before, isSuffix, -, tree, derivation, rfl⟩ := reading.exists_front answered longer
    exact nowhere _ isSuffix derivation.tokens_ne_nil ⟨tree, derivation, rfl⟩
  rw [wholly] at suffix enough unique
  obtain ⟨-, -, joinedSuffix⟩ := reading.derives_suffix (X := .expr) answered
  have length_eq := le_antisymm enough (not_lt.1 shorter)
  have within := List.suffix_of_suffix_length_le suffix joinedSuffix enough
  obtain rfl := unique (within.eq_of_length length_eq)
  have start_eq : start = front.length + 1 := by
    have stop := reading.start_eq answered
    simp only [wholly, List.length_append, List.length_cons] at stop
    omega
  exact start_eq ▸ answered

end Parsing

/-- Two texts with a comma between them are parsed as far as the first one is parsed by itself, if
the second one is parsed as a whole. The expression evaluates to the values of the first and then of
the second, in whatever context; the second goes on where the first one ends, and the first error of
the two is the error. If nothing of the first text is parsed, the second is parsed alone. -/
theorem parse_append_comma {frontText lastText : String} {front last : List Token}
    (cutFront : tokenize frontText = .ok front) (cutLast : tokenize lastText = .ok last)
    {second : Match Action} (foundSecond : (grammar.parse last).found = some second)
    (wholly : second.tree.tokens = last) :
    (∀ first, (grammar.parse front).found = some first →
      ∃ joined, (grammar.parse (front ++ comma :: last)).found = some joined ∧
        joined.start = first.start ∧
        joined.tree.tokens = first.tree.tokens ++ comma :: last ∧
        ∀ {σ : Type} [Roller σ] (context : Context σ),
          (evaluate joined.tree).runIn context =
            match (evaluate first.tree).runIn context with
            | (.error error, later) => (.error error, later)
            | (.ok before, later) =>
              match (evaluate second.tree).runIn later with
              | (.error error, final) => (.error error, final)
              | (.ok after, final) => (.ok (before ++ after), final)) ∧
    ((grammar.parse front).found = none →
      (grammar.parse (front ++ comma :: last)).found =
        some ⟨front.length + 1, second.tree⟩) := by
  have lexical : ∀ token ∈ front ++ comma :: last, Lexical token := by
    rw [List.forall_mem_append, List.forall_mem_cons]
    exact ⟨lexical_of_mem cutFront, ⟨fun _ => rfl, nofun⟩, lexical_of_mem cutLast⟩
  obtain ⟨answers, reading, found_eq⟩ := exists_reading_of_lexical lexical
  have parse_eq : (grammar.parse (front ++ comma :: last)).found =
    answers ⟨Place.expr, (front ++ comma :: last).length⟩ := found_eq .expr
  obtain ⟨frontAnswers, frontReading, frontFound_eq⟩ := exists_reading cutFront
  have frontParse_eq : (grammar.parse front).found = frontAnswers ⟨Place.expr, front.length⟩ :=
    frontFound_eq .expr
  obtain ⟨secondDerives, -⟩ :=
    derives_of_found (X := .expr) (lexical_of_mem cutLast) foundSecond
  rw [parse_eq, frontParse_eq]
  constructor
  · intro first foundFirst
    have longest : Longest .expr front first := frontReading.longest foundFirst
    obtain ⟨tree, answered, written, evaluated⟩ :=
      reading.found_append longest secondDerives wholly
    refine ⟨_, answered, rfl, written, fun {σ} _ context => ?_⟩
    rw [evaluated]
    exact runIn_inTurn _ _ context
  · intro nothing
    have nowhere := (frontReading.answers_eq_none_iff (X := .expr)).1 nothing
    exact reading.found_alone nowhere secondDerives wholly

/-- The parenthesis that is never closed is left out, and the dice are rolled at the end. -/
theorem parse_append_comma_unclosed :
    let item (n : Nat) : Tree Action :=
      .branch .same [.branch .same [.branch .same [.leaf .number (numeral n)]]]
    let first : Tree Action := .branch .list [.branch .same [item 1], .literal comma, item 2]
    let second : Tree Action := .branch .list [.branch .same [item 3], .literal comma,
      .branch .assign [.leaf .name ⟨.charSequence, "x"⟩, .literal ⟨.literal, "="⟩,
        .branch .same [.branch .same [.leaf .die ⟨.dice, "d6"⟩]]]]
    let front := opening :: first.tokens
    tokenize "(1, 2" = .ok front ∧ tokenize "3, x = d6" = .ok second.tokens ∧
    (grammar.parse front).found = some ⟨1, first⟩ ∧
    (grammar.parse second.tokens).found = some ⟨0, second⟩ ∧
    ∃ joined, (grammar.parse (front ++ comma :: second.tokens)).found = some joined ∧
      joined.start = 1 ∧ (evaluate joined.tree).runIn (.fresh none ({} : Highest)) =
        (.ok ⟨1, [2, 3, 6]⟩, ⟨none, 1, ⟨1⟩⟩) := by
  intro item first second front
  have cutFront : tokenize "(1, 2" = .ok front := by decide +kernel
  have cutLast : tokenize "3, x = d6" = .ok second.tokens := by decide +kernel
  have foundFirst : (grammar.parse front).found = some ⟨1, first⟩ := by decide +kernel
  have derivesNumber (n : Nat) : Derives .assignment (item n) :=
    .value (.single (.operand (.number rfl)))
  have derivesSecond : Derives .expr second :=
    .list (.only (derivesNumber 3)) rfl (.assign (.word rfl) rfl (.single (.operand (.die rfl))))
  have foundSecond : (grammar.parse second.tokens).found = some ⟨0, second⟩ :=
    parse_of_derives derivesSecond (lexical_of_mem cutLast)
  obtain ⟨joined, found, start_eq, -, run⟩ :=
    (parse_append_comma cutFront cutLast foundSecond rfl).1 _ foundFirst
  refine ⟨cutFront, cutLast, foundFirst, foundSecond, joined, found, start_eq, ?_⟩
  rw [run]
  rfl

end Dice

end DiceCalculator
