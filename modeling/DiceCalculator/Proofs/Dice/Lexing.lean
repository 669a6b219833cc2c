import DiceCalculator.Proofs.Dice.Lexemes
import DiceCalculator.Proofs.Pattern.Greedy
import DiceCalculator.Proofs.Pattern.Words

/-!
# Printing tokens and cutting them again

The first rule that takes anything wins, even where a later one would take more.
Yet tokens that are printed with white space between them are cut into the same
tokens again: what follows a token goes on with none of the rows, and of two
rules that can begin with the same character only the one of dice needs a digit
after it.
-/

namespace DiceCalculator

namespace Tokenizer

variable {tokenizer : Tokenizer}

/-- A rule cuts off the next piece if it takes something and none before it does. -/
theorem next?_of_split {before after : List TokenRule} {rule : TokenRule} {text : List Char}
    {more : Nat} (table : tokenizer.rules = before ++ rule :: after)
    (earlier : ∀ other ∈ before, other.pattern.matchEnd? text = none)
    (matched : rule.pattern.matchEnd? text = some (more + 1)) :
    tokenizer.next? text = some (rule.kind, more) := by
  refine List.findSome?_eq_some_iff.2 ⟨before, rule, after, table, ?_, ?_⟩
  · rw [matched]
  · intro other isBefore
    rw [earlier other isBefore]

theorem pieces_append {word rest : List Char} {kind : Token.Kind} {more : Nat}
    (length_eq : word.length = more + 1)
    (cut : tokenizer.next? (word ++ rest) = some (kind, more)) :
    tokenizer.pieces (word ++ rest) =
      (tokenizer.pieces rest).map (⟨kind, String.ofList word⟩ :: ·) := by
  obtain ⟨c, word, rfl⟩ := List.exists_cons_of_length_eq_add_one length_eq
  have length_eq : word.length = more := Nat.succ.inj length_eq
  rw [List.cons_append] at cut ⊢
  rw [pieces, cut]
  simp only [← length_eq, List.drop_left, List.take_left]

end Tokenizer

namespace Dice

open Pattern

/-- The characters with which a token of the kind could go on. -/
def extension : Token.Kind → CharSet
  | .dice | .number => digits
  | .whitespace => blanks
  | .charSequence => letters
  | .literal | .arithOp | .factorOp => ⟨[], false⟩

section Rows

variable {word rest : List Char}

theorem Row.not_stops {set : CharSet} {n : Nat} (row : Row set (rest.take n)) :
    ¬Stops set rest := by
  intro stops
  cases rest with
  | nil => exact row.1 List.take_nil
  | cons c rest =>
    cases n with
    | zero => exact row.1 rfl
    | succ n => simpa [stops_cons.1 stops] using row.2 c (by simp)

theorem matchEnd?_someOf {set : CharSet} (row : Row set word) (stops : Stops set rest) :
    (atStart (someOf set)).matchEnd? (word ++ rest) = some word.length := by
  rw [matchEnd?_atStart, run_someOf row.1 row.2 stops rfl, Nat.zero_add]

theorem matchEnd?_oneOf {chars : List Char} (single : Single chars word) :
    (atStart (oneOf chars)).matchEnd? (word ++ rest) = some word.length := by
  obtain ⟨c, listed, rfl⟩ := single
  rw [matchEnd?_atStart, oneOf, run_one_of_contains _ rfl (contains_each.2 listed)]
  rfl

theorem matchEnd?_dice (spells : Spells .dice word) (stops : Stops digits rest) :
    (atStart (.seq (oneOf ['D', 'd']) (someOf digits))).matchEnd? (word ++ rest) =
      some word.length := by
  obtain ⟨c, listed, number, rfl, row⟩ := spells
  rw [matchEnd?_atStart, run, oneOf, run_one_of_contains _ rfl (contains_each.2 listed),
    run_someOf row.1 row.2 stops rfl]
  exact congrArg some (Nat.add_comm 1 number.length)

/-- The rule of a token takes the whole token, and no more if the text does not go on like it. -/
theorem matchEnd?_of_spells : ∀ rule ∈ tokenizer.rules,
    Spells rule.kind word → Stops (extension rule.kind) rest →
      rule.pattern.matchEnd? (word ++ rest) = some word.length := by
  simp only [tokenizer, List.forall_mem_cons]
  exact ⟨matchEnd?_dice, matchEnd?_someOf, fun single _ => matchEnd?_oneOf single,
    fun single _ => matchEnd?_oneOf single, fun single _ => matchEnd?_oneOf single,
    matchEnd?_someOf, matchEnd?_someOf, by simp⟩

end Rows

/-- What follows a token of the kind does not go on with it. After a word there is no digit either,
with which its last letter could make dice. -/
structure Breaks (kind : Token.Kind) (rest : List Char) : Prop where
  extension : Stops (extension kind) rest
  digit : kind = .charSequence → Stops digits rest

/-- What follows the word does not go on with it. Only behind the letter of dice alone a digit would
be taken for a part of it. -/
structure Leaves (kind : Token.Kind) (word rest : List Char) : Prop where
  extension : Stops (Dice.extension kind) rest
  digit : kind = .charSequence → ∀ c ∈ ['D', 'd'], word = [c] → Stops digits rest

theorem Breaks.leaves {kind : Token.Kind} {rest : List Char} (breaks : Breaks kind rest)
    (word : List Char) : Leaves kind word rest where
  extension := breaks.extension
  digit := fun letters _ _ _ => breaks.digit letters

/-- What follows a token of the kind: white space or nothing, and after white space something
else. -/
def Ends (kind : Token.Kind) (rest : List Char) : Prop :=
  ∀ c ∈ rest.head?, blanks.contains c = true ↔ kind ≠ .whitespace

theorem Ends.stops_firsts {kind : Token.Kind} {rest : List Char} (ends : Ends kind rest)
    (notBlank : kind ≠ .whitespace) (other : Token.Kind) (otherNotBlank : other ≠ .whitespace)
    (otherNotDice : other ≠ .dice) : Stops (firsts other) rest := by
  intro c next
  have blank : (firsts .whitespace).contains c = true := (ends c next).2 notBlank
  exact not_contains_of_contains blank nofun other otherNotBlank otherNotDice

theorem Ends.stops_extension {kind : Token.Kind} {rest : List Char} (ends : Ends kind rest) :
    Stops (extension kind) rest := by
  cases kind with
  | dice | number => exact ends.stops_firsts nofun .number nofun nofun
  | charSequence => exact ends.stops_firsts nofun .charSequence nofun nofun
  | literal | arithOp | factorOp => exact fun _ _ => rfl
  | whitespace =>
    intro c next
    rw [extension, Bool.eq_false_iff]
    exact fun blank => (ends c next).1 blank rfl

theorem Ends.breaks {kind : Token.Kind} {rest : List Char} (ends : Ends kind rest) :
    Breaks kind rest where
  extension := ends.stops_extension
  digit := by
    rintro rfl
    exact ends.stops_firsts nofun .number nofun nofun

/-- The rules before the one of a kind are of other kinds, and the one of dice is the first. -/
theorem exists_split (kind : Token.Kind) : ∃ before rule after,
    tokenizer.rules = before ++ rule :: after ∧ rule.kind = kind ∧
      ∀ other ∈ before, other.kind ≠ kind ∧ kind ≠ .dice := by
  cases kind with
  | dice => exact ⟨[], _, _, rfl, rfl, nofun⟩
  | number => exact ⟨[_], _, _, rfl, rfl, by simp⟩
  | literal => exact ⟨[_, _], _, _, rfl, rfl, by simp⟩
  | arithOp => exact ⟨[_, _, _], _, _, rfl, rfl, by simp⟩
  | factorOp => exact ⟨[_, _, _, _], _, _, rfl, rfl, by simp⟩
  | whitespace => exact ⟨[_, _, _, _, _], _, _, rfl, rfl, by simp⟩
  | charSequence => exact ⟨[_, _, _, _, _, _], _, _, rfl, rfl, by simp⟩

section Cutting

variable {kind : Token.Kind} {word rest : List Char}

/-- A word is not the beginning of dice, for want of a digit after its first letter. -/
theorem not_spells_dice {c : Char} (row : Row letters (c :: word))
    (alone : c ∈ ['D', 'd'] → word = [] → Stops digits rest) (stop : Nat) :
    ¬Spells .dice (c :: (word ++ rest).take stop) := by
  rintro ⟨d, listed, number, shape, isRow⟩
  obtain ⟨rfl, rfl⟩ := List.cons.inj shape
  apply isRow.not_stops
  cases word with
  | nil => exact alone listed rfl
  | cons e word =>
    have letter : (firsts .charSequence).contains e = true := row.2 e (by simp)
    exact stops_cons.2 (not_contains_of_contains letter nofun .number nofun nofun)

/-- No other rule takes anything of a token that is not dice. -/
theorem matchEnd?_eq_none {other : TokenRule} (known : other ∈ tokenizer.rules)
    (spells : Spells kind word) (leaves : Leaves kind word rest) (others : other.kind ≠ kind)
    (notDice : kind ≠ .dice) : other.pattern.matchEnd? (word ++ rest) = none := by
  obtain ⟨pattern, shape, hasWords⟩ := hasWords_spells other known
  rw [Option.eq_none_iff_forall_ne_some]
  intro stop matched
  rw [shape] at matched
  have spellsOther := hasWords.word_take matched
  obtain ⟨c, word, rfl, first⟩ := spells.exists_first
  obtain ⟨d, taken, shapeToo, firstToo⟩ := spellsOther.exists_first
  cases stop with
  | zero => cases shapeToo
  | succ stop =>
    obtain ⟨rfl, -⟩ := List.cons.inj shapeToo
    -- only words and dice can begin alike, and dice go on with a digit
    obtain same | ⟨same, -⟩ | ⟨rfl, isDice⟩ := kind_eq_of_contains first firstToo
    · exact others same.symm
    · exact notDice same
    · rw [isDice] at spellsOther
      refine not_spells_dice spells (fun listed alone => ?_) stop spellsOther
      exact leaves.digit rfl c listed (alone ▸ rfl)

/-- A token is cut off as it was printed. -/
theorem next?_of_spells {more : Nat} (spells : Spells kind word) (leaves : Leaves kind word rest)
    (length_eq : word.length = more + 1) :
    tokenizer.next? (word ++ rest) = some (kind, more) := by
  obtain ⟨before, rule, after, table, rfl, earlier⟩ := exists_split kind
  have known : rule ∈ tokenizer.rules := by simp [table]
  refine Tokenizer.next?_of_split table ?_ ?_
  · intro other isBefore
    obtain ⟨others, notDice⟩ := earlier other isBefore
    exact matchEnd?_eq_none (by simp [table, isBefore]) spells leaves others notDice
  · rw [← length_eq]
    exact matchEnd?_of_spells rule known spells leaves.extension

theorem pieces_of_spells (spells : Spells kind word) (leaves : Leaves kind word rest) :
    tokenizer.pieces (word ++ rest) =
      (tokenizer.pieces rest).map (⟨kind, String.ofList word⟩ :: ·) := by
  obtain ⟨c, others, rfl, -⟩ := spells.exists_first
  exact Tokenizer.pieces_append rfl (next?_of_spells spells leaves rfl)

end Cutting

end Dice

end DiceCalculator
