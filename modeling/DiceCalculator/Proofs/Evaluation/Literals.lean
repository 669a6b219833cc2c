import DiceCalculator.Proofs.Evaluation.Denotation

/-!
# Numerals of any length

Every row of digits is a number with zeros in front of it. So a number or a die
that is written down has always a number to it, and stands for the greatest
value or the most sides there can be only if that number is beyond them.
-/

namespace DiceCalculator.Dice

/-- The decimal digits of a number, with zeros in front of them. -/
def padded (zeros n : Nat) : String :=
  String.ofList (List.replicate zeros '0') ++ n.repr

def paddedNumber (zeros n : Nat) : Token :=
  ⟨.number, padded zeros n⟩

def paddedDie (letter : Char) (zeros n : Nat) : Token :=
  ⟨.dice, String.ofList (letter :: (padded zeros n).toList)⟩

section Digits

variable (zeros n : Nat)

theorem toList_padded :
    (padded zeros n).toList = List.replicate zeros '0' ++ Nat.toDigits 10 n := by
  rw [padded, String.toList_append, String.toList_ofList, Nat.repr_eq_ofList_toDigits,
    String.toList_ofList]

theorem row_padded : Row digits (padded zeros n).toList := by
  have zero : ∀ c ∈ List.replicate zeros '0', digits.contains c = true := by
    intro c member
    rw [List.eq_of_mem_replicate member]
    rfl
  have number := row_repr n
  rw [padded, String.toList_append, String.toList_ofList]
  exact ⟨List.append_ne_nil_of_right_ne_nil _ number.1, List.forall_mem_append.2 ⟨zero, number.2⟩⟩

theorem spelled_padded : spelled (padded zeros n).toList = n := by
  rw [spelled, toList_padded, Nat.ofDigitChars_append, Nat.ofDigitChars_replicate_zero,
    Nat.mul_zero, Nat.ofDigitChars_ten_toDigits]

theorem exists_digitChar {c : Char} (isDigit : digits.contains c = true) :
    ∃ d < 10, c = Nat.digitChar d := by
  have bounds : 48 ≤ c.toNat ∧ c.toNat ≤ 57 := by
    simpa [Char.isDigit, UInt32.le_iff_toNat_le] using contains_digits.1 isDigit
  have small : c.toNat - 48 < 10 := by omega
  refine ⟨c.toNat - 48, small, ?_⟩
  rw [← Char.toNat_inj, Nat.toNat_digitChar_of_lt_ten small]
  omega

/-- One more digit behind zeros alone is a number by itself, and behind a number one with a greater
one. -/
theorem exists_zeros {text : List Char} (row : Row digits text) :
    ∃ zeros, text = List.replicate zeros '0' ++ Nat.toDigits 10 (spelled text) := by
  induction text using List.reverseRecOn with
  | nil => exact absurd rfl row.1
  | append_singleton front c inductionHypothesis =>
    obtain ⟨d, small, rfl⟩ := exists_digitChar (row.2 c (by simp))
    have next : spelled (front ++ [d.digitChar]) = 10 * spelled front + d := by
      rw [spelled, Nat.ofDigitChars_append, Nat.ofDigitChars_cons_digitChar_of_lt_ten small,
        Nat.ofDigitChars_nil, spelled]
    rw [next, ← Nat.toDigits_of_lt_base small]
    by_cases empty : front = []
    · rw [empty]
      exact ⟨0, by simp [spelled]⟩
    · obtain ⟨zeros, same⟩ :=
        inductionHypothesis ⟨empty, fun c member => row.2 c (List.mem_append_left _ member)⟩
      rcases Nat.eq_zero_or_pos (spelled front) with zero | pos
      · rw [zero, Nat.toDigits_zero] at same
        refine ⟨zeros + 1, ?_⟩
        rw [zero, Nat.mul_zero, Nat.zero_add, List.replicate_succ', ← same]
      · refine ⟨zeros, ?_⟩
        rw [← Nat.toDigits_append_toDigits (by decide) pos small, ← List.append_assoc, ← same]

theorem exists_padded {text : String} (row : Row digits text.toList) :
    ∃ zeros, text = padded zeros (spelled text.toList) := by
  obtain ⟨zeros, same⟩ := exists_zeros row
  exact ⟨zeros, String.toList_inj.1 (same.trans (toList_padded _ _).symm)⟩

end Digits

section Alone

variable {token : Token} (spells : Spells token.kind token.text.toList)

include spells

theorem tokenize_of_spells (notBlank : token.kind ≠ .whitespace) :
    tokenize token.text = .ok [token] := by
  have wellFormed : WellFormed token := wellFormed_iff.2 ⟨notBlank, spells⟩
  have ends : Ends token.kind "".toList := nofun
  have cut := tokenize_token wellFormed ends.breaks
  rw [String.append_empty] at cut
  rw [cut, tokenize, Tokenizer.tokenize, String.toList_empty, Tokenizer.pieces]
  rfl

/-- An operand that is all there is of a text is evaluated as it is. -/
theorem exists_found_of_atom {action : Action} (derivation : Derives .atom (.leaf action token)) :
    ∃ tree, (grammar.parse [token]).found = some ⟨0, tree⟩ ∧ tree.tokens = [token] ∧
      ∀ (σ : Type) [Roller σ],
        evaluate tree = (evaluate (.leaf action token) : RollM σ Values) := by
  have lexical : ∀ other ∈ [token], Lexical other := by simpa using lexical_of_spells spells
  exact derivation.denotes.operand.single.value.only.exists_found lexical

end Alone

/-- A face is a value by itself. -/
theorem toInt_clamp_face (face : Face) : (Value.clamp face.toNat).toInt = face.toNat := by
  have := face.toNat_lt
  exact Value.toInt_clamp_of_mem (by omega) (by omega)

theorem toInt_ofNumeral_padded (zeros n : Nat) :
    (Value.ofNumeral (padded zeros n)).toInt = min (n : Int) 0x7fffffffffffffff := by
  rw [toInt_ofNumeral_eq_min (row_padded zeros n), spelled_padded]

section Die

variable {letter : Char} (isLetter : letter ∈ ['D', 'd']) (zeros n : Nat)

include isLetter

theorem spells_paddedDie : Spells .dice (paddedDie letter zeros n).text.toList := by
  rw [paddedDie, String.toList_ofList]
  exact ⟨letter, isLetter, _, rfl, row_padded zeros n⟩

theorem sidesOf?_paddedDie : sidesOf? (paddedDie letter zeros n).text = Sides.ofNat? n := by
  rw [sidesOf?_eq (spells_paddedDie isLetter zeros n), paddedDie, String.toList_ofList,
    List.tail_cons, spelled_padded]

end Die

/-- Each number that is cut out of a text is a padded one, and so is what follows the letter of each
die. -/
theorem exists_padded_of_spells {token : Token} (spells : Spells token.kind token.text.toList) :
    (token.kind = .number → ∃ zeros n, token = paddedNumber zeros n) ∧
    (token.kind = .dice → ∃ letter ∈ ['D', 'd'], ∃ zeros n, token = paddedDie letter zeros n) := by
  obtain ⟨kind, text⟩ := token
  constructor
  · rintro rfl
    obtain ⟨zeros, same⟩ := exists_padded spells
    exact ⟨zeros, _, congrArg (Token.mk .number) same⟩
  · rintro rfl
    obtain ⟨letter, isLetter, rest, written, row⟩ := spells
    obtain ⟨zeros, same⟩ := exists_zeros row
    refine ⟨letter, isLetter, zeros, spelled rest, congrArg (Token.mk .dice) ?_⟩
    rw [← String.toList_inj, String.toList_ofList, toList_padded, ← same]
    exact written

/-- One roll of a die, as it is evaluated. -/
theorem runIn_rolled {σ : Type} [Roller σ] (sides : Sides) (context : Context σ) :
    let rolled : RollM σ Values := do return .single (.clamp (← RollM.rollDie sides).toNat)
    match (RollM.rollDie sides).runIn context with
    | (.ok face, later) => ∃ value : Value, value.toInt = face.toNat ∧
        rolled.runIn context = (.ok (.single value), later)
    | (.error error, later) => rolled.runIn context = (.error error, later) := by
  intro rolled
  rcases run : (RollM.rollDie sides).runIn context with ⟨error | face, later⟩
  · exact RollM.runIn_bind_of_error run
  · exact ⟨.clamp face.toNat, toInt_clamp_face face, RollM.runIn_bind_of_ok run⟩

/-- A number comes to itself, and a die to one face of as many sides as it says, with any zeros in
front of it. Only what is beyond the greatest value or the most sides comes to these instead. Every
number and every die that a text is cut into is such a one. -/
theorem literal_saturates :
    (∀ zeros n, tokenize (paddedNumber zeros n).text = .ok [paddedNumber zeros n] ∧
      ∃ tree, ∃ value : Value,
        (grammar.parse [paddedNumber zeros n]).found = some ⟨0, tree⟩ ∧
        tree.tokens = [paddedNumber zeros n] ∧ value.toInt = min (n : Int) 0x7fffffffffffffff ∧
        ∀ {σ : Type} [Roller σ] (context : Context σ),
          (evaluate tree).runIn context = (.ok (.single value), context)) ∧
    (∀ letter ∈ ['D', 'd'], ∀ zeros n,
      tokenize (paddedDie letter zeros n).text = .ok [paddedDie letter zeros n] ∧
      ∃ tree, (grammar.parse [paddedDie letter zeros n]).found = some ⟨0, tree⟩ ∧
        tree.tokens = [paddedDie letter zeros n] ∧
        (n = 0 → ∀ {σ : Type} [Roller σ] (context : Context σ),
          (evaluate tree).runIn context = (.ok (.single 0), context)) ∧
        (n ≠ 0 → ∃ sides : Sides, sides.count = min n 0xffffffff ∧
          ∀ {σ : Type} [Roller σ] (context : Context σ),
            match (RollM.rollDie sides).runIn context with
            | (.ok face, later) => ∃ value : Value, value.toInt = face.toNat ∧
                (evaluate tree).runIn context = (.ok (.single value), later)
            | (.error error, later) => (evaluate tree).runIn context = (.error error, later))) ∧
    ∀ text tokens, tokenize text = .ok tokens → ∀ token ∈ tokens,
      (token.kind = .number → ∃ zeros n, token = paddedNumber zeros n ∧
        Numeral.integer? token.text.toList = some (n : Int) ∧
        (Value.ofNumeral token.text).toInt = min (n : Int) 0x7fffffffffffffff) ∧
      (token.kind = .dice → ∃ letter ∈ ['D', 'd'], ∃ zeros n, token = paddedDie letter zeros n ∧
        Numeral.natural? token.text.toList.tail = some n ∧
        sidesOf? token.text = Sides.ofNat? n) := by
  refine ⟨?number, ?die, ?each⟩
  case number =>
    intro zeros n
    have spells : Spells .number (paddedNumber zeros n).text.toList := row_padded zeros n
    have derivation : Derives .atom (.leaf .number (paddedNumber zeros n)) := .number rfl
    obtain ⟨tree, found, written, evaluated⟩ := exists_found_of_atom spells derivation
    refine ⟨tokenize_of_spells spells nofun, tree, .ofNumeral (padded zeros n), found, written,
      toInt_ofNumeral_padded zeros n, fun {σ} _ context => ?_⟩
    rw [evaluated, evaluate_number]
    rfl
  case die =>
    intro letter isLetter zeros n
    have spells := spells_paddedDie isLetter zeros n
    have derivation : Derives .atom (.leaf .die (paddedDie letter zeros n)) := .die rfl
    obtain ⟨tree, found, written, evaluated⟩ := exists_found_of_atom spells derivation
    refine ⟨tokenize_of_spells spells nofun, tree, found, written, ?_, ?_⟩
    · rintro rfl σ _ context
      rw [evaluated, evaluate_die, sidesOf?_paddedDie isLetter]
      rfl
    · intro notZero
      have pos : 0 < n := Nat.pos_of_ne_zero notZero
      refine ⟨⟨min n 0xffffffff, by omega, by omega⟩, rfl, fun {σ} _ context => ?_⟩
      rw [evaluated, evaluate_die, sidesOf?_paddedDie isLetter, Sides.ofNat?, dif_pos pos]
      exact runIn_rolled _ context
  case each =>
    intro text tokens cut token isToken
    obtain ⟨number, die⟩ := exists_padded_of_spells (spells_of_mem cut token isToken)
    constructor
    · intro isNumber
      obtain ⟨zeros, n, rfl⟩ := number isNumber
      refine ⟨zeros, n, rfl, ?_, toInt_ofNumeral_padded zeros n⟩
      rw [paddedNumber, (row_padded zeros n).integer?_eq, spelled_padded]
    · intro isDie
      obtain ⟨letter, isLetter, zeros, n, rfl⟩ := die isDie
      refine ⟨letter, isLetter, zeros, n, rfl, ?_, sidesOf?_paddedDie isLetter zeros n⟩
      rw [paddedDie, String.toList_ofList, List.tail_cons, (row_padded zeros n).natural?_eq,
        spelled_padded]

/-- More sides than there can be, no sides at all, and a number that a text is cut into. -/
theorem literal_saturates_oversized :
    let oversized : Token := ⟨.dice, "d0099999999999"⟩
    let sideless : Token := ⟨.dice, "D000"⟩
    let start : Context Highest := .fresh none {}
    tokenize oversized.text = .ok [oversized] ∧
    (∃ tree, (grammar.parse [oversized]).found = some ⟨0, tree⟩ ∧
      (evaluate tree).runIn start = (.ok (.single 4294967295), ⟨none, 1, ⟨1⟩⟩)) ∧
    tokenize sideless.text = .ok [sideless] ∧
    (∃ tree, (grammar.parse [sideless]).found = some ⟨0, tree⟩ ∧
      (evaluate tree).runIn start = (.ok (.single 0), start)) ∧
    tokenize "-007" = .ok [⟨.arithOp, "-"⟩, ⟨.number, "007"⟩] ∧
    ∃ zeros n, (⟨.number, "007"⟩ : Token) = paddedNumber zeros n := by
  intro oversized sideless start
  have oversized_eq : paddedDie 'd' 2 99999999999 = oversized := by decide +kernel
  have sideless_eq : paddedDie 'D' 2 0 = sideless := by decide +kernel
  obtain ⟨-, dice, each⟩ := literal_saturates
  obtain ⟨cut, tree, found, -, -, rolls⟩ := dice 'd' (by decide) 2 99999999999
  obtain ⟨sides, count, run⟩ := rolls (by decide)
  obtain rfl : sides = .greatest := Sides.ext count
  obtain ⟨value, same, comes⟩ := run start
  obtain rfl : value = 4294967295 := Value.ext same
  obtain ⟨cutToo, other, foundToo, -, idle, -⟩ := dice 'D' (by decide) 2 0
  rw [oversized_eq] at cut found
  rw [sideless_eq] at cutToo foundToo
  have cutSum : tokenize "-007" = .ok [⟨.arithOp, "-"⟩, ⟨.number, "007"⟩] := by decide +kernel
  obtain ⟨zeros, n, number, -, -⟩ := (each _ _ cutSum ⟨.number, "007"⟩ (by simp)).1 rfl
  exact ⟨cut, ⟨tree, found, comes⟩, cutToo, ⟨other, foundToo, idle rfl start⟩, cutSum, zeros, n,
    number⟩

end DiceCalculator.Dice
