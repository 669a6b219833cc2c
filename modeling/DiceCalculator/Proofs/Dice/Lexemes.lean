import DiceCalculator.Proofs.Dice.Spelling

/-!
# Kinds and first characters

The texts of two kinds have no first character in common, but for the `d` of a
die and of a word. So the first character of a token says much about its kind:
punctuation and signs are never anything else. That is all the grammar needs to
know of the tokenizer.
-/

namespace DiceCalculator

namespace Dice

/-- The characters with which a token of the kind can begin. -/
def firsts : Token.Kind → CharSet
  | .dice => CharSet.normal ⟨['D', 'd'].map fun c => (c, c), false⟩
  | .number => digits
  | .literal => CharSet.normal ⟨[',', '=', '(', ')', '.'].map fun c => (c, c), false⟩
  | .arithOp => CharSet.normal ⟨['+', '-'].map fun c => (c, c), false⟩
  | .factorOp => CharSet.normal ⟨['/', '*'].map fun c => (c, c), false⟩
  | .whitespace => blanks
  | .charSequence => letters

theorem Spells.exists_first {kind : Token.Kind} {text : List Char} (spells : Spells kind text) :
    ∃ c rest, text = c :: rest ∧ (firsts kind).contains c = true := by
  cases kind with
  | dice =>
    obtain ⟨c, member, rest, rfl, -⟩ := spells
    exact ⟨c, rest, rfl, contains_each.2 member⟩
  | literal | arithOp | factorOp =>
    obtain ⟨c, member, rfl⟩ := spells
    exact ⟨c, [], rfl, contains_each.2 member⟩
  | number | whitespace | charSequence =>
    obtain ⟨c, rest, rfl⟩ := List.exists_cons_of_ne_nil spells.1
    exact ⟨c, rest, rfl, spells.2 c List.mem_cons_self⟩

/-- The codes of the characters with which a token of the kind can begin. -/
def HasCode : Token.Kind → Nat → Prop
  | .dice, n => n = 68 ∨ n = 100
  | .number, n => 48 ≤ n ∧ n ≤ 57
  | .literal, n => n = 40 ∨ n = 41 ∨ n = 44 ∨ n = 46 ∨ n = 61
  | .arithOp, n => n = 43 ∨ n = 45
  | .factorOp, n => n = 42 ∨ n = 47
  | .whitespace, n => (9 ≤ n ∧ n ≤ 13) ∨ n = 32
  | .charSequence, n => (65 ≤ n ∧ n ≤ 90) ∨ (97 ≤ n ∧ n ≤ 122)

theorem le_iff_toNat_le {c d : Char} : c ≤ d ↔ c.toNat ≤ d.toNat := by
  rw [Char.le_def, UInt32.le_iff_toNat_le]
  rfl

theorem hasCode_of_contains {kind : Token.Kind} {c : Char}
    (first : (firsts kind).contains c = true) : HasCode kind c.toNat := by
  cases kind with
  | dice | literal | arithOp | factorOp =>
    have listed := contains_each.1 first
    simp only [List.mem_cons, List.not_mem_nil, or_false] at listed
    rcases listed with rfl | rfl | rfl | rfl | rfl <;> simp [HasCode]
  | number | charSequence =>
    simpa [firsts, digits, letters, CharSet.contains_ranges, le_iff_toNat_le, HasCode] using first
  | whitespace =>
    have code : (9 ≤ c.toNat ∧ c.toNat ≤ 13) ∨ (32 ≤ c.toNat ∧ c.toNat ≤ 32) := by
      simpa [firsts, blanks, CharSet.contains_ranges, le_iff_toNat_le] using first
    simp only [HasCode]
    omega

/-- A character can begin tokens of one kind only, unless these are dice and words. -/
theorem kind_eq_of_contains {kind other : Token.Kind} {c : Char}
    (first : (firsts kind).contains c = true) (firstToo : (firsts other).contains c = true) :
    kind = other ∨ (kind = .dice ∧ other = .charSequence) ∨
      (kind = .charSequence ∧ other = .dice) := by
  have code := hasCode_of_contains first
  have codeToo := hasCode_of_contains firstToo
  cases kind <;> cases other <;> first
    | exact .inl rfl
    | exact .inr (.inl ⟨rfl, rfl⟩)
    | exact .inr (.inr ⟨rfl, rfl⟩)
    | simp only [HasCode] at code codeToo
      omega

theorem not_contains_of_contains {kind : Token.Kind} {c : Char}
    (first : (firsts kind).contains c = true) (notDice : kind ≠ .dice) (other : Token.Kind)
    (ne : other ≠ kind) (otherNotDice : other ≠ .dice) : (firsts other).contains c = false := by
  rw [Bool.eq_false_iff]
  intro firstToo
  obtain same | ⟨same, -⟩ | ⟨-, same⟩ := kind_eq_of_contains first firstToo
  · exact ne same.symm
  · exact notDice same
  · exact otherNotDice same

/-- The text tells punctuation from other tokens, and the minus sign. -/
structure Lexical (token : Token) : Prop where
  punctuation : token.text ∈ [".", "=", ",", "(", ")"] → token.kind = .literal
  minus : token.text = "-" → token.kind = .arithOp

theorem Lexical.text_ne {token : Token} {text : String} (lexical : Lexical token)
    (other : token.kind ≠ .literal) (mark : text ∈ [".", "=", ",", "(", ")"]) :
    token.text ≠ text := by
  rintro rfl
  exact other (lexical.punctuation mark)

theorem kind_of_text {token : Token} {c : Char} {kind : Token.Kind}
    (first : ∃ c rest, token.text = String.ofList (c :: rest) ∧
      (firsts token.kind).contains c = true)
    (written : token.text = String.ofList [c])
    (only : ∀ other, (firsts other).contains c = true → other = kind) : token.kind = kind := by
  obtain ⟨c', rest, written', contains⟩ := first
  rw [written, String.ofList_inj] at written'
  cases written'
  exact only _ contains

theorem lexical_of_spells {token : Token} (spells : Spells token.kind token.text.toList) :
    Lexical token := by
  obtain ⟨c, rest, spelled, inside⟩ := spells.exists_first
  have first : ∃ c rest, token.text = String.ofList (c :: rest) ∧
      (firsts token.kind).contains c = true :=
    ⟨c, rest, by rw [← spelled, String.ofList_toList], inside⟩
  constructor
  · intro written
    simp only [List.mem_cons, List.not_mem_nil, or_false] at written
    rcases written with written | written | written | written | written
    all_goals
      refine kind_of_text first written ?_
      intro other
      cases other <;> decide
  · intro written
    refine kind_of_text first written ?_
    intro other
    cases other <;> decide

/-- All that the tokenizer gives is lexical. -/
theorem lexical_of_mem {text : String} {tokens : List Token} (cut : tokenize text = .ok tokens) :
    ∀ token ∈ tokens, Lexical token :=
  fun token member => lexical_of_spells (spells_of_mem cut token member)

end Dice

end DiceCalculator
