import DiceCalculator.Proofs.Dice.Lexing
import Mathlib.Data.List.Infix

/-!
# Tables with more rules

A rule that is added is tried after all others, so it decides only at places
where none of them takes anything. Both tables cut a text alike as far as the
smaller one comes. Where that one is stuck, the larger one may go on, but it
never goes back behind the place. Nothing is asked of the patterns here.
-/

namespace DiceCalculator.Tokenizer

/-- Cutting the text comes to the rest; the pieces are cut off on the way. -/
inductive Reaches (tokenizer : Tokenizer) : List Char → List Token → List Char → Prop where
  | here {text} : Reaches tokenizer text [] text
  | piece {c text kind more pieces rest} :
      tokenizer.next? (c :: text) = some (kind, more) →
      Reaches tokenizer (text.drop more) pieces rest →
      Reaches tokenizer (c :: text) (⟨kind, String.ofList (c :: text.take more)⟩ :: pieces) rest

variable {tokenizer larger : Tokenizer} {text rest : List Char} {pieces : List Token}

namespace Reaches

/-- What the tokenizer makes of the text is the pieces and what it makes of the rest. -/
theorem pieces_eq (reaches : tokenizer.Reaches text pieces rest) :
    tokenizer.pieces text = (tokenizer.pieces rest).map (pieces ++ ·) := by
  induction reaches with
  | @here text => cases tokenizer.pieces text <;> rfl
  | @piece c text kind more pieces rest cut _ inductionHypothesis =>
    rw [Tokenizer.pieces, cut]
    simp only [inductionHypothesis]
    cases tokenizer.pieces rest <;> rfl

theorem isSuffix (reaches : tokenizer.Reaches text pieces rest) : rest <:+ text := by
  induction reaches with
  | here => exact List.suffix_rfl
  | @piece c text _ more _ _ _ _ inductionHypothesis =>
    exact inductionHypothesis.trans ((List.drop_suffix more text).trans (List.suffix_cons c text))

theorem text_eq (reaches : tokenizer.Reaches text pieces rest) :
    String.ofList text = String.join (pieces.map (·.text)) ++ String.ofList rest := by
  induction reaches with
  | here => rw [List.map_nil, String.join_nil, String.empty_append]
  | @piece c text kind more pieces rest _ _ inductionHypothesis =>
    rw [List.map_cons, String.join_cons, String.append_assoc, ← inductionHypothesis,
      ← String.ofList_append, List.cons_append, List.take_append_drop]

end Reaches

/-- The tokenizer comes to the end of the text, or to a rest from which no rule takes anything. -/
theorem exists_reaches (tokenizer : Tokenizer) (text : List Char) :
    ∃ pieces rest, tokenizer.Reaches text pieces rest ∧
      (rest = [] ∨ tokenizer.next? rest = none) := by
  induction text using Tokenizer.pieces.induct tokenizer with
  | case1 => exact ⟨[], [], .here, .inl rfl⟩
  | case2 c rest stuck => exact ⟨[], c :: rest, .here, .inr stuck⟩
  | case3 c rest kind more cut inductionHypothesis =>
    obtain ⟨pieces, last, reaches, ends⟩ := inductionHypothesis
    exact ⟨_, last, .piece cut reaches, ends⟩

theorem reaches_of_pieces_eq_ok (cut : tokenizer.pieces text = .ok pieces) :
    tokenizer.Reaches text pieces [] := by
  obtain ⟨others, rest, reaches, ends⟩ := tokenizer.exists_reaches text
  rw [reaches.pieces_eq] at cut
  cases rest with
  | nil =>
    rw [Tokenizer.pieces] at cut
    obtain rfl : others = pieces := by simpa [Except.map] using cut
    exact reaches
  | cons c rest =>
    have stuck := ends.resolve_left (List.cons_ne_nil c rest)
    rw [Tokenizer.pieces, stuck] at cut
    cases cut

theorem exists_reaches_of_pieces_eq_error {last : String}
    (refused : tokenizer.pieces text = .error ⟨last⟩) :
    ∃ pieces, tokenizer.Reaches text pieces last.toList := by
  obtain ⟨pieces, rest, reaches, ends⟩ := tokenizer.exists_reaches text
  rw [reaches.pieces_eq] at refused
  cases rest with
  | nil =>
    rw [Tokenizer.pieces] at refused
    cases refused
  | cons c rest =>
    have stuck := ends.resolve_left (List.cons_ne_nil c rest)
    rw [Tokenizer.pieces, stuck] at refused
    cases refused
    rw [String.toList_ofList]
    exact ⟨pieces, reaches⟩

theorem next?_of_isPrefix (isPrefix : tokenizer.rules <+: larger.rules) {found : Token.Kind × Nat}
    (cut : tokenizer.next? text = some found) : larger.next? text = some found := by
  obtain ⟨added, table⟩ := isPrefix
  simp only [next?] at cut ⊢
  rw [← table, List.findSome?_append, cut, Option.some_or]

/-- With more rules after its own a tokenizer cuts off the same pieces. -/
theorem Reaches.mono (isPrefix : tokenizer.rules <+: larger.rules)
    (reaches : tokenizer.Reaches text pieces rest) : larger.Reaches text pieces rest := by
  induction reaches with
  | here => exact .here
  | piece cut _ inductionHypothesis =>
    exact .piece (next?_of_isPrefix isPrefix cut) inductionHypothesis

section AddRule

variable {ε : Type} {compile : String → Except ε Pattern} {pattern : String} {kind : Token.Kind}

theorem isPrefix_of_addRule
    (accepted : tokenizer.addRule compile pattern kind = (.ok (), larger)) :
    tokenizer.rules <+: larger.rules := by
  obtain ⟨compiled, result⟩ := addRule_eq_ok_iff.1 (congrArg Prod.fst accepted)
  cases (addRule_of_ok result).symm.trans accepted
  exact List.prefix_append ..

theorem eq_of_addRule_eq_error {error : ε}
    (refused : tokenizer.addRule compile pattern kind = (.error error, larger)) :
    larger = tokenizer := by
  cases result : compile ("^(?:" ++ pattern ++ ")") with
  | ok compiled => cases (addRule_of_ok result).symm.trans refused
  | error error =>
    cases (addRule_of_error result).symm.trans refused
    rfl

end AddRule

theorem tokenize_eq_ok_iff {text : String} {tokens : List Token} :
    tokenizer.tokenize text = .ok tokens ↔
      ∃ pieces, tokenizer.pieces text.toList = .ok pieces ∧
        pieces.filter (·.kind ≠ .whitespace) = tokens := by
  rw [tokenize]
  cases tokenizer.pieces text.toList <;> simp [Except.map]

theorem tokenize_eq_error_iff {text : String} {error : LexError} :
    tokenizer.tokenize text = .error error ↔ tokenizer.pieces text.toList = .error error := by
  rw [tokenize]
  cases tokenizer.pieces text.toList <;> simp [Except.map]

/-- The tokens of the text are those of the pieces and then those of the rest. -/
theorem Reaches.tokenize_eq {text rest : String}
    (reaches : tokenizer.Reaches text.toList pieces rest.toList) :
    tokenizer.tokenize text =
      (tokenizer.tokenize rest).map (pieces.filter (·.kind ≠ .whitespace) ++ ·) := by
  simp only [tokenize, reaches.pieces_eq]
  cases tokenizer.pieces rest.toList with
  | error error => rfl
  | ok others => simp [Except.map]

/-- The place where a text is refused lies behind all that was cut off. -/
theorem Reaches.isSuffix_of_refused {last : String}
    (reaches : tokenizer.Reaches text pieces rest)
    (refused : tokenizer.pieces text = .error ⟨last⟩) : last.toList <:+ rest := by
  rw [reaches.pieces_eq] at refused
  cases cut : tokenizer.pieces rest with
  | ok others =>
    rw [cut] at refused
    cases refused
  | error error =>
    rw [cut] at refused
    cases refused
    obtain ⟨_, further⟩ := exists_reaches_of_pieces_eq_error cut
    exact further.isSuffix

/-- Whatever texts are refused as patterns, and whatever the others mean: after a refusal all texts
have the tokens they had, and one more rule changes no text that has tokens already. A text that had
none is cut into the same pieces up to the place where it was refused; from there on it has tokens
now, or it is refused at the place or behind it. -/
theorem addRule_conservative {ε : Type} (compile : String → Except ε Pattern)
    (tokenizer : Tokenizer) (pattern : String) (kind : Token.Kind) (text : String) :
    (∀ error table, tokenizer.addRule compile pattern kind = (.error error, table) →
      table.tokenize text = tokenizer.tokenize text) ∧
    ∀ larger, tokenizer.addRule compile pattern kind = (.ok (), larger) →
      (∀ tokens, tokenizer.tokenize text = .ok tokens → larger.tokenize text = .ok tokens) ∧
      ∀ rest, tokenizer.tokenize text = .error ⟨rest⟩ →
        ∃ pieces, tokenizer.Reaches text.toList pieces rest.toList ∧
          larger.Reaches text.toList pieces rest.toList ∧
          text = String.join (pieces.map (·.text)) ++ rest ∧
          ((∃ tokens, larger.tokenize rest = .ok tokens ∧
              larger.tokenize text = .ok (pieces.filter (·.kind ≠ .whitespace) ++ tokens)) ∨
            ∃ last, larger.tokenize text = .error ⟨last⟩ ∧ last.toList <:+ rest.toList) := by
  refine ⟨fun _ _ refused => by rw [eq_of_addRule_eq_error refused],
    fun larger accepted => ⟨?_, ?_⟩⟩
  · intro tokens cut
    obtain ⟨pieces, whole, rfl⟩ := tokenize_eq_ok_iff.1 cut
    have reaches := (reaches_of_pieces_eq_ok whole).mono (isPrefix_of_addRule accepted)
    refine tokenize_eq_ok_iff.2 ⟨pieces, ?_, rfl⟩
    rw [reaches.pieces_eq, Tokenizer.pieces]
    exact congrArg Except.ok (List.append_nil pieces)
  · intro rest refused
    obtain ⟨pieces, reaches⟩ :=
      exists_reaches_of_pieces_eq_error (tokenize_eq_error_iff.1 refused)
    have further := reaches.mono (isPrefix_of_addRule accepted)
    have text_eq := reaches.text_eq
    rw [String.ofList_toList, String.ofList_toList] at text_eq
    refine ⟨pieces, reaches, further, text_eq, ?_⟩
    have outcome := further.tokenize_eq
    cases goesOn : larger.tokenize rest with
    | ok tokens =>
      rw [goesOn] at outcome
      exact .inl ⟨tokens, rfl, outcome⟩
    | error error =>
      rw [goesOn] at outcome
      exact .inr ⟨error.rest, outcome,
        further.isSuffix_of_refused (tokenize_eq_error_iff.1 outcome)⟩

/-- A rule for digits takes the tokenizer for words over the number, to the next place at which it
is stuck. A rule that closes a group too many takes it nowhere. -/
theorem addRule_conservative_digits :
    let compile := Pattern.standard.compile
    let words : Tokenizer := ⟨[⟨Dice.atStart (Dice.someOf Dice.letters), .charSequence⟩,
      ⟨Dice.atStart (Dice.someOf Dice.blanks), .whitespace⟩]⟩
    let larger : Tokenizer :=
      ⟨words.rules ++ [⟨Dice.atStart (Dice.someOf Dice.digits), .number⟩]⟩
    let (outcome, table) := words.addRule compile "[0-9])" .number
    outcome = .error .malformed ∧
    words.tokenize "a b" = .ok [⟨.charSequence, "a"⟩, ⟨.charSequence, "b"⟩] ∧
    table.tokenize "a b" = .ok [⟨.charSequence, "a"⟩, ⟨.charSequence, "b"⟩] ∧
    words.addRule compile "[0-9]+" .number = (.ok (), larger) ∧
    larger.tokenize "a b" = .ok [⟨.charSequence, "a"⟩, ⟨.charSequence, "b"⟩] ∧
    words.tokenize "a b12?" = .error ⟨"12?"⟩ ∧
    ∃ pieces, words.Reaches "a b12?".toList pieces "12?".toList ∧
      larger.Reaches "a b12?".toList pieces "12?".toList ∧
      "a b12?" = String.join (pieces.map (·.text)) ++ "12?" ∧
      ((∃ tokens, larger.tokenize "12?" = .ok tokens ∧
          larger.tokenize "a b12?" = .ok (pieces.filter (·.kind ≠ .whitespace) ++ tokens)) ∨
        ∃ last, larger.tokenize "a b12?" = .error ⟨last⟩ ∧ last.toList <:+ "12?".toList) := by
  intro compile words larger
  have cut : words.tokenize "a b" = .ok [⟨.charSequence, "a"⟩, ⟨.charSequence, "b"⟩] := by
    decide +kernel
  have stuck : words.tokenize "a b12?" = .error ⟨"12?"⟩ := by decide +kernel
  have refused : (words.addRule compile "[0-9])" .number).1 = .error .malformed := by
    decide +kernel
  have accepted : words.addRule compile "[0-9]+" .number = (.ok (), larger) := by decide +kernel
  have unchanged := (words.addRule_conservative compile "[0-9])" .number "a b").1 _ _
    (Prod.ext refused rfl)
  have conservative := words.addRule_conservative compile "[0-9]+" .number
  exact ⟨refused, cut, unchanged.trans cut, accepted, ((conservative "a b").2 _ accepted).1 _ cut,
    stuck, ((conservative "a b12?").2 _ accepted).2 _ stuck⟩

end DiceCalculator.Tokenizer
