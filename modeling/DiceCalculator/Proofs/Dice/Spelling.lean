import DiceCalculator.Dice.Action
import DiceCalculator.Proofs.Pattern.Soundness
import DiceCalculator.Tokenizer.Dice
import Mathlib.Tactic.Common

/-!
# The texts of tokens

Whatever way a search takes through the forks of a pattern, what it takes on
the way is a word of the pattern. So the text of a token is a word of the rule
that cut it off: a number is digits, and a die is a letter with digits after it.
-/

namespace DiceCalculator

namespace Pattern

theorem matchAt?_atStart_of_pos (pattern : Pattern) {here : Cursor} (inside : 0 < here.passed) :
    (Dice.atStart pattern).matchAt? here = none := by
  have passed : here.passed ≠ 0 := Nat.ne_of_gt inside
  simp [matchAt?, Dice.atStart, run, Cursor.satisfies, Search.fail, passed]

theorem search_atStart_of_pos (pattern : Pattern) {passed : Nat} (inside : 0 < passed)
    (before : Option Char) (text : List Char) :
    (Dice.atStart pattern).search passed before text = none := by
  induction text generalizing passed before with
  | nil =>
    rw [search]
    exact matchAt?_atStart_of_pos pattern inside
  | cons c rest inductionHypothesis =>
    rw [search, matchAt?_atStart_of_pos pattern inside]
    exact inductionHypothesis (Nat.succ_pos passed) (some c)

/-- A pattern for the start of a text is looked for there only. -/
theorem matchEnd?_atStart (pattern : Pattern) (text : List Char) :
    (Dice.atStart pattern).matchEnd? text =
      (pattern.run [1] Cursor.finish ⟨0, none, text⟩ {}).1 := by
  have here : (Dice.atStart pattern).matchAt? ⟨0, none, text⟩ =
      (pattern.run [1] Cursor.finish ⟨0, none, text⟩ {}).1 := by
    simp [matchAt?, Dice.atStart, Pattern.run, Cursor.satisfies]
  cases text with
  | nil => exact here
  | cons c rest =>
    rw [matchEnd?, search, search_atStart_of_pos pattern (Nat.succ_pos 0), ← here]
    cases (Dice.atStart pattern).matchAt? ⟨0, none, c :: rest⟩ <;> rfl

theorem exists_spans_of_matchEnd? {pattern : Pattern} {text : List Char} {stop : Nat}
    (matched : (Dice.atStart pattern).matchEnd? text = some stop) :
    ∃ there, pattern.Spans ⟨0, none, text⟩ there ∧ there.passed = stop := by
  rw [matchEnd?_atStart] at matched
  obtain ⟨there, seen, spans, finished⟩ := pattern.sound _ _ _ _ _ matched
  exact ⟨there, spans, Option.some.inj finished⟩

/-- What the search takes is a word of the pattern. -/
theorem HasWords.word_take {pattern : Pattern} {word : List Char → Prop} {text : List Char}
    {stop : Nat} (hasWords : pattern.HasWords word)
    (matched : (Dice.atStart pattern).matchEnd? text = some stop) : word (text.take stop) := by
  obtain ⟨there, spans, rfl⟩ := exists_spans_of_matchEnd? matched
  obtain ⟨taken, left, passed⟩ := spans.left_eq
  obtain ⟨same, isWord, leftToo⟩ := (hasWords _ _).1 ⟨there, spans, rfl⟩
  obtain rfl := List.append_cancel_right (left.symm.trans leftToo)
  simp only [Nat.zero_add] at left passed
  rwa [left, passed, List.take_left]

end Pattern

namespace Tokenizer

variable {tokenizer : Tokenizer}

theorem exists_of_map_eq_ok {ε α β : Type} {f : α → β} {result : Except ε α} {mapped : β}
    (mapped_eq : result.map f = .ok mapped) : ∃ value, result = .ok value ∧ f value = mapped := by
  cases result with
  | error => cases mapped_eq
  | ok value => exact ⟨value, rfl, Except.ok.inj mapped_eq⟩

theorem exists_rule_of_next? {text : List Char} {kind : Token.Kind} {more : Nat}
    (cut : tokenizer.next? text = some (kind, more)) :
    ∃ rule ∈ tokenizer.rules, rule.kind = kind ∧
      rule.pattern.matchEnd? text = some (more + 1) := by
  obtain ⟨rule, member, taken⟩ := List.exists_of_findSome?_eq_some cut
  split at taken
  · rename_i more' matched
    cases taken
    exact ⟨rule, member, rfl, matched⟩
  · cases taken

/-- Each piece was cut off by one of the rules. -/
theorem exists_rule_of_mem_pieces {text : List Char} {pieces : List Token}
    (cut : tokenizer.pieces text = .ok pieces) :
    ∀ piece ∈ pieces, ∃ rule ∈ tokenizer.rules, rule.kind = piece.kind ∧
      ∃ c rest more, rule.pattern.matchEnd? (c :: rest) = some (more + 1) ∧
        piece.text = String.ofList (c :: rest.take more) := by
  induction text using Tokenizer.pieces.induct tokenizer generalizing pieces with
  | case1 =>
    rw [Tokenizer.pieces] at cut
    cases cut
    simp
  | case2 c rest stuck =>
    rw [Tokenizer.pieces, stuck] at cut
    cases cut
  | case3 c rest kind more first inductionHypothesis =>
    rw [Tokenizer.pieces, first] at cut
    obtain ⟨others, cutOthers, rfl⟩ := exists_of_map_eq_ok cut
    intro piece member
    rcases List.mem_cons.1 member with rfl | member
    · obtain ⟨rule, known, same, matched⟩ := exists_rule_of_next? first
      exact ⟨rule, known, same, c, rest, more, matched, rfl⟩
    · exact inductionHypothesis cutOthers piece member

end Tokenizer

namespace Dice

open Pattern

/-- One character of the set or more. -/
def Row (set : CharSet) (text : List Char) : Prop :=
  text ≠ [] ∧ ∀ c ∈ text, set.contains c = true

instance (set : CharSet) : DecidablePred (Row set) := fun text =>
  decidable_of_iff (text ≠ [] ∧ text.all set.contains = true) (by rw [Row, List.all_eq_true])

theorem Row.append {set : CharSet} {a b : List Char} (first : Row set a) (second : Row set b) :
    Row set (a ++ b) :=
  ⟨List.append_ne_nil_of_left_ne_nil first.1 b, List.forall_mem_append.2 ⟨first.2, second.2⟩⟩

theorem hasWords_someOf (set : CharSet) : (someOf set).HasWords (Row set) := by
  refine (hasWords_many_one 1 true set).congr fun word => ?_
  simp only [Row, List.ne_nil_iff_length_pos, Nat.succ_le_iff]

/-- One of the characters and nothing else. -/
def Single (chars : List Char) (text : List Char) : Prop :=
  ∃ c ∈ chars, text = [c]

theorem contains_each {chars : List Char} {c : Char} :
    (CharSet.normal ⟨chars.map fun c => (c, c), false⟩).contains c = true ↔ c ∈ chars := by
  rw [CharSet.contains_normal, CharSet.contains_ranges]
  constructor
  · rintro ⟨range, member, first, last⟩
    obtain ⟨d, known, rfl⟩ := List.mem_map.1 member
    rwa [Char.le_antisymm last first]
  · intro member
    exact ⟨(c, c), List.mem_map.2 ⟨c, member, rfl⟩, Char.le_refl c, Char.le_refl c⟩

theorem contains_digits {c : Char} : digits.contains c = true ↔ c.isDigit = true := by
  simp [digits, CharSet.contains_ranges, Char.isDigit, Char.le_def]

theorem hasWords_oneOf (chars : List Char) : (oneOf chars).HasWords (Single chars) := by
  refine (hasWords_one _).congr fun word => ?_
  simp only [Single, contains_each, and_comm]

/-- The texts that a token of the kind can have. -/
def Spells : Token.Kind → List Char → Prop
  | .dice => fun text => ∃ c ∈ ['D', 'd'], ∃ rest, text = c :: rest ∧ Row digits rest
  | .number => Row digits
  | .literal => Single [',', '=', '(', ')', '.']
  | .arithOp => Single ['+', '-']
  | .factorOp => Single ['/', '*']
  | .whitespace => Row blanks
  | .charSequence => Row letters

/-- The words of a rule are the texts of its kind. -/
theorem hasWords_spells : ∀ rule ∈ tokenizer.rules,
    ∃ pattern, rule.pattern = atStart pattern ∧ pattern.HasWords (Spells rule.kind) := by
  simp only [tokenizer, List.forall_mem_cons]
  refine ⟨⟨_, rfl, ?_⟩, ⟨_, rfl, hasWords_someOf digits⟩, ⟨_, rfl, hasWords_oneOf _⟩,
    ⟨_, rfl, hasWords_oneOf _⟩, ⟨_, rfl, hasWords_oneOf _⟩, ⟨_, rfl, hasWords_someOf blanks⟩,
    ⟨_, rfl, hasWords_someOf letters⟩, by simp⟩
  refine ((hasWords_oneOf _).seq (hasWords_someOf digits)).congr fun word => ?_
  constructor
  · rintro ⟨_, number, ⟨c, listed, rfl⟩, row, shape⟩
    exact ⟨c, listed, number, shape, row⟩
  · rintro ⟨c, listed, number, shape, row⟩
    exact ⟨[c], number, ⟨c, listed, rfl⟩, row, shape⟩

/-- What the tokenizer gives is spelled as its kind says. -/
theorem spells_of_mem {text : String} {tokens : List Token} (cut : tokenize text = .ok tokens) :
    ∀ token ∈ tokens, Spells token.kind token.text.toList := by
  intro token member
  obtain ⟨pieces, whole, rfl⟩ := Tokenizer.exists_of_map_eq_ok cut
  obtain ⟨rule, known, same, c, rest, more, matched, written⟩ :=
    Tokenizer.exists_rule_of_mem_pieces whole token (List.mem_filter.1 member).1
  obtain ⟨pattern, shape, hasWords⟩ := hasWords_spells rule known
  rw [shape] at matched
  rw [same] at hasWords
  rw [written, String.toList_ofList]
  exact hasWords.word_take matched

/-- The number that a row of digits spells. -/
def spelled (text : List Char) : Nat :=
  Nat.ofDigitChars 10 text 0

namespace Row

variable {text : List Char} (row : Row digits text)

include row

theorem digits?_eq : Numeral.digits? text = some (spelled text) := by
  have each : text.all Char.isDigit = true := by
    rw [List.all_eq_true]
    exact fun c member => contains_digits.1 (row.2 c member)
  exact if_pos ⟨row.1, each⟩

theorem exists_digit : ∃ c rest, text = c :: rest ∧ c ≠ '+' ∧ c ≠ '-' := by
  obtain ⟨c, rest, rfl⟩ := List.exists_cons_of_ne_nil row.1
  refine ⟨c, rest, rfl, ?_, ?_⟩ <;>
  · rintro rfl
    exact absurd (row.2 _ List.mem_cons_self) (by decide)

theorem natural?_eq : Numeral.natural? text = some (spelled text) := by
  rw [← row.digits?_eq]
  obtain ⟨c, rest, rfl, notPlus, -⟩ := row.exists_digit
  unfold Numeral.natural?
  split
  · rename_i same
    cases same
    exact absurd rfl notPlus
  · rfl

theorem integer?_eq : Numeral.integer? text = some (spelled text : Int) := by
  have digits := row.digits?_eq
  obtain ⟨c, rest, rfl, notPlus, notMinus⟩ := row.exists_digit
  unfold Numeral.integer?
  split
  · rename_i same
    cases same
    exact absurd rfl notPlus
  · rename_i same
    cases same
    exact absurd rfl notMinus
  · rw [digits]
    rfl

end Row

theorem row_repr (n : Nat) : Row digits n.repr.toList := by
  rw [Nat.repr_eq_ofList_toDigits, String.toList_ofList]
  refine ⟨Nat.toDigits_ne_nil, fun c member => ?_⟩
  exact contains_digits.2 (Nat.isDigit_of_mem_toDigits (by decide) (by decide) member)

theorem spelled_repr (n : Nat) : spelled n.repr.toList = n := by
  rw [spelled, Nat.repr_eq_ofList_toDigits, String.toList_ofList, Nat.ofDigitChars_ten_toDigits]

/-- A number that is no value counts as the greatest one. -/
theorem toInt_ofNumeral_eq_min {text : String} (row : Row digits text.toList) :
    (Value.ofNumeral text).toInt = min (spelled text.toList : Int) 0x7fffffffffffffff := by
  rw [Value.ofNumeral, row.integer?_eq]
  dsimp only
  split
  · rename_i inside
    exact (Int.min_eq_left inside.2).symm
  · simp only [Value.greatest]
    omega

theorem toInt_ofNumeral {text : String} (row : Row digits text.toList)
    (within : (spelled text.toList : Int) ≤ 0x7fffffffffffffff) :
    (Value.ofNumeral text).toInt = spelled text.toList := by
  rw [toInt_ofNumeral_eq_min row, Int.min_eq_left within]

theorem sidesOf?_eq {text : String} (spells : Spells .dice text.toList) :
    sidesOf? text = Sides.ofNat? (spelled text.toList.tail) := by
  obtain ⟨c, member, rest, written, row⟩ := spells
  have ascii : c.toNat < 128 := by
    simp only [List.mem_cons, List.not_mem_nil, or_false] at member
    rcases member with rfl | rfl
    · decide
    · decide
  simp [sidesOf?, written, ascii, row.natural?_eq]

/-- A minus sign is the only sign of a sum that turns its operand around. -/
theorem signOf_arithOp {text : String} (spells : Spells .arithOp text.toList) :
    signOf text = if text = "-" then -1 else 1 := by
  have other : text ≠ "/" := by
    rintro rfl
    simp [Spells, Single] at spells
  simp [signOf, other]

theorem signOf_factorOp {text : String} (spells : Spells .factorOp text.toList) :
    signOf text = if text = "/" then -1 else 1 := by
  have other : text ≠ "-" := by
    rintro rfl
    simp [Spells, Single] at spells
  simp [signOf, other]

end Dice

end DiceCalculator
