import DiceCalculator.Proofs.Dice.Inertness
import DiceCalculator.Proofs.Evaluation.Denotation

/-!
# Parentheses

No rest of a word in parentheses is settled but the whole of it, and each part of
a derivation is. So where a production ends with a part of its own, that part
takes the whole word and nothing can stand before it: only productions with a
single part are left, down to the one that has the parentheses. What is within
them is therefore an expression to its last token, and the pair adds nothing to
what it is worth.
-/

namespace DiceCalculator.Dice

open Grammar

variable {word front last : List Token} {token : Token}

/-- Read from the front, the word never closes more parentheses than it has opened, and in the end
it has closed them all. -/
structure Nested (word : List Token) : Prop where
  count_le {front : List Token} : front <+: word → front.count closing ≤ front.count opening
  count_eq : word.count closing = word.count opening

instance : DecidablePred Nested := fun word =>
  decidable_of_iff ((∀ front ∈ word.inits, front.count closing ≤ front.count opening) ∧
      word.count closing = word.count opening) <| by
    simp only [List.mem_inits]
    exact ⟨fun ⟨count_le, count_eq⟩ => ⟨count_le _, count_eq⟩,
      fun ⟨count_le, count_eq⟩ => ⟨fun _ => count_le, count_eq⟩⟩

/-- The word in as many pairs of parentheses. -/
def enclosed (word : List Token) : Nat → List Token
  | 0 => word
  | depth + 1 => opening :: (enclosed word depth ++ [closing])

theorem Lexical.eq_opening_iff (lexical : Lexical token) : token = opening ↔ token.text = "(" := by
  refine ⟨congrArg Token.text, fun text => ?_⟩
  obtain ⟨kind, _⟩ := token
  cases text
  cases lexical.punctuation (by simp)
  rfl

theorem Lexical.eq_closing_iff (lexical : Lexical token) : token = closing ↔ token.text = ")" := by
  refine ⟨congrArg Token.text, fun text => ?_⟩
  obtain ⟨kind, _⟩ := token
  cases text
  cases lexical.punctuation (by simp)
  rfl

theorem lexical_opening : Lexical opening :=
  ⟨fun _ => rfl, nofun⟩

theorem lexical_closing : Lexical closing :=
  ⟨fun _ => rfl, nofun⟩

theorem excess_eq_sub_count (lexical : ∀ token ∈ word, Lexical token) :
    excess word = word.count closing - word.count opening := by
  induction word with
  | nil => rfl
  | cons token word inductionHypothesis =>
    obtain ⟨lexicalToken, lexicalWord⟩ := List.forall_mem_cons.1 lexical
    rw [excess_cons, inductionHypothesis lexicalWord, List.count_cons, List.count_cons]
    simp only [beq_iff_eq, lexicalToken.eq_closing_iff, lexicalToken.eq_opening_iff]
    by_cases closes : token.text = ")"
    · simp only [closes, ↓reduceIte, String.reduceEq]
      omega
    · simp only [closes, ↓reduceIte]
      split_ifs <;> omega

theorem Nested.balanced (nested : Nested word) (lexical : ∀ token ∈ word, Lexical token) :
    Balanced word where
  settled := by
    rw [excess_eq_sub_count lexical, nested.count_eq, sub_self]
  nonneg := by
    rintro later ⟨front, rfl⟩
    have fewer := nested.count_le (List.prefix_append front later)
    have same := nested.count_eq
    rw [List.count_append, List.count_append] at same
    rw [excess_eq_sub_count (List.forall_mem_append.1 lexical).2]
    omega

/-- A settled rest of a word in parentheses leaves nothing in front of it. -/
theorem Balanced.eq_nil_of_enclose (inner : Balanced word)
    (cut : front ++ last = opening :: (word ++ [closing])) (something : last ≠ [])
    (settled : excess last = 0) : front = [] := by
  cases front with
  | nil => rfl
  | cons first front =>
    have rest : front ++ last = word ++ [closing] := (List.cons.inj cut).2
    have positive := inner.pos_of_suffix rfl ⟨front, rest⟩ something
    exact absurd settled positive.ne'

/-- A derivation of a word in parentheses is one of the expression within them. -/
theorem Derives.exists_inner {X : Nonterminal} {tree : Tree Action} (derivation : Derives X tree)
    (lexical : ∀ token ∈ tree.tokens, Lexical token) (balanced : Balanced word)
    (whole : tree.tokens = opening :: (word ++ [closing])) :
    ∃ inner, Derives .arithExpr inner ∧ inner.tokens = word := by
  -- Nothing is in front of the last part if this is a derivation itself.
  have alone {Y : Nonterminal} {part : Tree Action} {front : List Token} (last : Derives Y part)
      (cut : front ++ part.tokens = opening :: (word ++ [closing])) : front = [] := by
    have lexicalPart : ∀ token ∈ part.tokens, Lexical token := fun token member =>
      lexical token (whole ▸ cut ▸ List.mem_append_right front member)
    exact balanced.eq_nil_of_enclose cut last.tokens_ne_nil (last.balanced lexicalPart).settled
  induction derivation with
  | plusMinusOp | multDivOp | word | name | number | die => simp [Tree.tokens] at whole
  | reference _ inner | operand _ inner | single _ inner | value _ inner | only _ inner =>
    rw [Tree.tokens_one] at whole lexical
    exact inner lexical whole
  | @nested left inner right _ derivation _ _ =>
    rw [Tree.tokens_three] at whole
    obtain ⟨-, rest⟩ := List.cons.inj whole
    exact ⟨inner, derivation, List.append_inj_left' rest rfl⟩
  | negate _ last _ =>
    rw [Tree.tokens_two] at whole
    exact absurd (alone last whole) (List.cons_ne_nil _ _)
  | rounds first last _ _ =>
    rw [Tree.tokens_two] at whole
    exact absurd (alone last whole) first.tokens_ne_nil
  | dotted first _ last _ _ | scale first _ last _ _ _ | combine first _ last _ _ _
  | assign first _ last _ _ | list first _ last _ _ =>
    rw [Tree.tokens_three, ← List.append_assoc] at whole
    exact absurd (alone last whole) (List.append_ne_nil_of_left_ne_nil first.tokens_ne_nil _)

theorem Denotes.enclosed {computation : Computation}
    (denotes : Denotes .arithExpr word computation) (depth : Nat) :
    Denotes .arithExpr (enclosed word depth) computation := by
  induction depth with
  | zero => exact denotes
  | succ depth inductionHypothesis => exact inductionHypothesis.nested.operand.single

theorem lexical_enclosed (lexical : ∀ token ∈ word, Lexical token) (depth : Nat) :
    ∀ token ∈ enclosed word depth, Lexical token := by
  induction depth with
  | zero => exact lexical
  | succ depth inductionHypothesis =>
    rw [enclosed, List.forall_mem_cons, List.forall_mem_append, List.forall_mem_singleton]
    exact ⟨lexical_opening, inductionHypothesis, lexical_closing⟩

/-- A text whose parentheses match is parsed within another pair of them exactly if all of it is an
expression without commas and equals signs. Then any number of pairs around it is parsed to the last
token, and is worth what it is worth by itself. -/
theorem parse_enclosed {text : String} (cut : tokenize text = .ok word) (nested : Nested word) :
    ((∃ outer, (grammar.parse (enclosed word 1)).found = some outer) ↔
      ∃ inner, (grammar.matchRule Place.arithExpr word).found = some inner ∧
        inner.tree.tokens = word) ∧
    ∀ inner, (grammar.matchRule Place.arithExpr word).found = some inner →
      inner.tree.tokens = word → ∀ depth,
        ∃ outer, (grammar.parse (enclosed word depth)).found = some ⟨0, outer⟩ ∧
          outer.tokens = enclosed word depth ∧ WorthSame outer inner.tree := by
  have lexical := lexical_of_mem cut
  have parsed (inner : Match Action)
      (matched : (grammar.matchRule Place.arithExpr word).found = some inner)
      (whole : inner.tree.tokens = word) (depth : Nat) :
      ∃ outer, (grammar.parse (enclosed word depth)).found = some ⟨0, outer⟩ ∧
        outer.tokens = enclosed word depth ∧ WorthSame outer inner.tree := by
    obtain ⟨derivation, -⟩ := derives_of_found (X := .arithExpr) lexical matched
    have denotes := whole ▸ derivation.denotes
    obtain ⟨outer, found, tokens_eq, evaluated⟩ :=
      (denotes.enclosed depth).value.only.exists_found (lexical_enclosed lexical depth)
    exact ⟨outer, found, tokens_eq, worthSame_of_evaluate_eq evaluated⟩
  refine ⟨⟨?_, ?_⟩, parsed⟩
  · rintro ⟨outer, found⟩
    have balanced := nested.balanced lexical
    obtain ⟨derivation, front, whole⟩ :=
      derives_of_found (X := .expr) (lexical_enclosed lexical 1) found
    have lexicalOuter : ∀ token ∈ outer.tree.tokens, Lexical token := fun token member =>
      lexical_enclosed lexical 1 token (whole ▸ List.mem_append_right front member)
    -- The parse takes all tokens: no shorter rest of them is settled.
    have settled := (derivation.balanced lexicalOuter).settled
    obtain rfl := balanced.eq_nil_of_enclose whole derivation.tokens_ne_nil settled
    obtain ⟨inner, innerDerives, rfl⟩ := derivation.exists_inner lexicalOuter balanced whole
    exact ⟨_, found_of_derives innerDerives lexical, rfl⟩
  · rintro ⟨inner, matched, whole⟩
    obtain ⟨outer, found, -⟩ := parsed inner matched whole 1
    exact ⟨_, found⟩

/-- The count and the roller are also left as they are without the pairs. -/
theorem parse_enclosed_rounds :
    let one : Tree Action := .branch .same [.branch .same [.leaf .number (numeral 1)]]
    let inner : Tree Action := .branch .combine [
      .branch .rounds [
        .branch .same [.leaf .number (numeral 2)],
        .branch .same [.leaf .die ⟨.dice, "d6"⟩]],
      .leaf .sign minus,
      .branch .same [.branch .same [.literal opening, one, .literal closing]]]
    tokenize "2d6 - (1)" = .ok inner.tokens ∧ Nested inner.tokens ∧
    (grammar.matchRule Place.arithExpr inner.tokens).found = some ⟨0, inner⟩ ∧
    ∃ outer, (grammar.parse (enclosed inner.tokens 3)).found = some ⟨0, outer⟩ ∧
      outer.tokens.length = 12 ∧
      (evaluate outer).runIn (.fresh (some 4) ({} : Highest)) =
        (.ok (.single 11), ⟨some 4, 4, ⟨2⟩⟩) := by
  intro one inner
  have cut : tokenize "2d6 - (1)" = .ok inner.tokens := by decide +kernel
  have nested : Nested inner.tokens := by decide
  have derivesOne : Derives .arithExpr one := .single (.operand (.number rfl))
  have derivation : Derives .arithExpr inner :=
    .combine (.rounds (.operand (.number rfl)) (.operand (.die rfl))) (.plusMinusOp rfl)
      (.operand (.nested rfl derivesOne rfl))
  have matched : (grammar.matchRule Place.arithExpr inner.tokens).found = some ⟨0, inner⟩ :=
    found_of_derives (X := .arithExpr) derivation (lexical_of_mem cut)
  obtain ⟨outer, found, tokens_eq, same⟩ := (parse_enclosed cut nested).2 _ matched rfl 3
  refine ⟨cut, nested, matched, outer, found, ?_, ?_⟩
  · rw [tokens_eq]
    rfl
  · rw [same]
    rfl

end DiceCalculator.Dice
