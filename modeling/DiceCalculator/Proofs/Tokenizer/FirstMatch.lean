import DiceCalculator.Proofs.Dice.Lexing
import Mathlib.Data.List.Basic

/-!
# The first rule that takes anything

A table of rules cuts a text in one way only: at each place the first rule of
the table with a match that is not empty takes what this match takes, and the
cutting goes on behind it. It ends with the text, or at a place where no rule
takes anything. This is said here of any table whose rules match at the start
of what is left, and of any text.
-/

namespace DiceCalculator

/-- How many characters the preferred match at the start of the text takes. -/
def Pattern.taken? (pattern : Pattern) (text : List Char) : Option Nat :=
  pattern.matchAt? ⟨0, none, text⟩

theorem Pattern.le_of_taken? {pattern : Pattern} {text : List Char} {n : Nat}
    (taken : pattern.taken? text = some n) : n ≤ text.length := by
  obtain ⟨there, seen, spans, finished⟩ := pattern.sound _ _ _ _ _ taken
  obtain ⟨word, left, passed⟩ := spans.left_eq
  obtain rfl := Option.some.inj finished
  simp only [Nat.zero_add] at left passed
  rw [left, passed, List.length_append]
  exact Nat.le_add_right ..

theorem Pattern.taken?_atStart (pattern : Pattern) (text : List Char) :
    (Dice.atStart pattern).matchEnd? text = (Dice.atStart pattern).taken? text := by
  rw [matchEnd?_atStart]
  simp [taken?, matchAt?, Dice.atStart, run, Cursor.satisfies]

namespace Tokenizer

/-- What is found for a rule in a text is the match at its start, if there is one. -/
def Anchored (tokenizer : Tokenizer) : Prop :=
  ∀ rule ∈ tokenizer.rules, ∀ text, rule.pattern.matchEnd? text = rule.pattern.taken? text

theorem anchored_of_atStart {tokenizer : Tokenizer}
    (atStart : ∀ rule ∈ tokenizer.rules, ∃ pattern, rule.pattern = Dice.atStart pattern) :
    tokenizer.Anchored := by
  intro rule known text
  obtain ⟨pattern, shape⟩ := atStart rule known
  rw [shape, Pattern.taken?_atStart]

/-- The rule takes nothing of the start of the text. -/
def Idle (text : List Char) (rule : TokenRule) : Prop :=
  ∀ n, rule.pattern.taken? text = some n → n = 0

/-- No rule takes anything of the start of the text. -/
def Stuck (tokenizer : Tokenizer) (text : List Char) : Prop :=
  ∀ rule ∈ tokenizer.rules, Idle text rule

/-- The rule takes the word in front of the rest, and no rule before it takes anything. -/
structure Wins (tokenizer : Tokenizer) (rule : TokenRule) (word rest : List Char) : Prop where
  word_ne : word ≠ []
  taken : rule.pattern.taken? (word ++ rest) = some word.length
  first : ∃ before after, tokenizer.rules = before ++ rule :: after ∧
    ∀ other ∈ before, Idle (word ++ rest) other

/-- The pieces are cut off the text one after the other, each by the rule that wins there, and the
rest is left. -/
inductive Cuts (tokenizer : Tokenizer) : List Char → List Token → List Char → Prop where
  | done {rest} : Cuts tokenizer rest [] rest
  | piece {rule word text pieces rest} :
      tokenizer.Wins rule word text →
      Cuts tokenizer text pieces rest →
      Cuts tokenizer (word ++ text) (⟨rule.kind, String.ofList word⟩ :: pieces) rest

variable {tokenizer : Tokenizer} {text rest : List Char} {pieces : List Token}

theorem next?_eq_none_iff (anchored : tokenizer.Anchored) :
    tokenizer.next? text = none ↔ tokenizer.Stuck text := by
  simp only [next?, List.findSome?_eq_none_iff, Stuck, Idle]
  refine forall₂_congr fun rule known => ?_
  rw [anchored rule known]
  cases rule.pattern.taken? text with
  | none => simp
  | some n => cases n <;> simp

theorem exists_wins_of_next? (anchored : tokenizer.Anchored) {kind : Token.Kind} {more : Nat}
    (cut : tokenizer.next? text = some (kind, more)) :
    ∃ rule, rule.kind = kind ∧
      tokenizer.Wins rule (text.take (more + 1)) (text.drop (more + 1)) := by
  obtain ⟨before, rule, after, table, here, earlier⟩ := List.findSome?_eq_some_iff.1 cut
  rw [anchored rule (by simp [table])] at here
  split at here
  case h_2 => cases here
  rename_i more' taken
  cases here
  have length_eq : (text.take (more + 1)).length = more + 1 :=
    List.length_take_of_le (Pattern.le_of_taken? taken)
  have whole := List.take_append_drop (more + 1) text
  refine ⟨rule, rfl, List.ne_nil_of_length_eq_add_one length_eq, ?_, before, after, table, ?_⟩
  · rw [whole, length_eq, taken]
  · rw [whole]
    intro other isBefore n takenToo
    have isEarlier := earlier other isBefore
    rw [anchored other (by simp [table, isBefore]), takenToo] at isEarlier
    cases n with
    | zero => rfl
    | succ n => cases isEarlier

theorem Wins.next?_eq (anchored : tokenizer.Anchored) {rule : TokenRule} {word : List Char}
    {more : Nat} (wins : tokenizer.Wins rule word rest) (length_eq : word.length = more + 1) :
    tokenizer.next? (word ++ rest) = some (rule.kind, more) := by
  obtain ⟨before, after, table, earlier⟩ := wins.first
  refine List.findSome?_eq_some_iff.2 ⟨before, rule, after, table, ?_, ?_⟩
  · rw [anchored rule (by simp [table]), wins.taken, length_eq]
  · intro other isBefore
    rw [anchored other (by simp [table, isBefore])]
    cases taken : other.pattern.taken? (word ++ rest) with
    | none => rfl
    | some n =>
      cases earlier other isBefore n taken
      rfl

/-- What was cut off is what the tokenizer has cut off when it comes to the rest. -/
theorem Cuts.pieces_eq (anchored : tokenizer.Anchored) (cuts : tokenizer.Cuts text pieces rest) :
    tokenizer.pieces text = (tokenizer.pieces rest).map (pieces ++ ·) := by
  induction cuts with
  | @done rest => cases tokenizer.pieces rest <;> rfl
  | @piece rule word text pieces rest wins _ inductionHypothesis =>
    obtain ⟨more, length_eq⟩ :=
      Nat.exists_eq_add_one_of_ne_zero (List.length_eq_zero_iff.not.2 wins.word_ne)
    rw [pieces_append length_eq (wins.next?_eq anchored length_eq), inductionHypothesis]
    cases tokenizer.pieces rest <;> rfl

theorem pieces_of_stuck (anchored : tokenizer.Anchored) (rest_ne : rest ≠ [])
    (stuck : tokenizer.Stuck rest) : tokenizer.pieces rest = .error ⟨String.ofList rest⟩ := by
  obtain ⟨c, others, rfl⟩ := List.exists_cons_of_ne_nil rest_ne
  rw [Tokenizer.pieces, (next?_eq_none_iff anchored).2 stuck]

/-- The tokenizer comes to the end of the text, or to a rest of which no rule takes anything. -/
theorem exists_cuts (anchored : tokenizer.Anchored) (text : List Char) :
    ∃ pieces rest, tokenizer.Cuts text pieces rest ∧ (rest ≠ [] → tokenizer.Stuck rest) := by
  induction text using Tokenizer.pieces.induct tokenizer with
  | case1 => exact ⟨[], [], .done, by simp⟩
  | case2 c rest stuck => exact ⟨[], c :: rest, .done, fun _ => (next?_eq_none_iff anchored).1 stuck⟩
  | case3 c rest kind more first inductionHypothesis =>
    obtain ⟨rule, -, wins⟩ := exists_wins_of_next? anchored first
    obtain ⟨pieces, last, cuts, stuck⟩ := inductionHypothesis
    have whole := Cuts.piece wins cuts
    rw [List.take_append_drop] at whole
    exact ⟨_, last, whole, stuck⟩

theorem pieces_eq_ok_iff (anchored : tokenizer.Anchored) :
    tokenizer.pieces text = .ok pieces ↔ tokenizer.Cuts text pieces [] := by
  constructor
  · intro cut
    obtain ⟨others, rest, cuts, stuck⟩ := exists_cuts anchored text
    rw [cuts.pieces_eq anchored] at cut
    by_cases rest_ne : rest = []
    · subst rest_ne
      rw [Tokenizer.pieces] at cut
      obtain rfl : others = pieces := by simpa [Except.map] using cut
      exact cuts
    · rw [pieces_of_stuck anchored rest_ne (stuck rest_ne)] at cut
      cases cut
  · intro cuts
    rw [cuts.pieces_eq anchored, Tokenizer.pieces]
    exact congrArg Except.ok (List.append_nil pieces)

theorem pieces_eq_error_iff (anchored : tokenizer.Anchored) {rest : String} :
    tokenizer.pieces text = .error ⟨rest⟩ ↔
      rest ≠ "" ∧ tokenizer.Stuck rest.toList ∧ ∃ pieces, tokenizer.Cuts text pieces rest.toList := by
  constructor
  · intro cut
    obtain ⟨others, last, cuts, stuck⟩ := exists_cuts anchored text
    rw [cuts.pieces_eq anchored] at cut
    by_cases last_ne : last = []
    · subst last_ne
      rw [Tokenizer.pieces] at cut
      cases cut
    · have stuck := stuck last_ne
      rw [pieces_of_stuck anchored last_ne stuck] at cut
      cases cut
      rw [String.toList_ofList]
      exact ⟨by simpa using last_ne, stuck, others, cuts⟩
  · rintro ⟨rest_ne, stuck, others, cuts⟩
    rw [cuts.pieces_eq anchored, pieces_of_stuck anchored (by simpa using rest_ne) stuck,
      String.ofList_toList]
    rfl

theorem Cuts.text_eq (cuts : tokenizer.Cuts text pieces rest) :
    String.ofList text = String.join (pieces.map (·.text)) ++ String.ofList rest := by
  induction cuts with
  | done => rw [List.map_nil, String.join_nil, String.empty_append]
  | piece _ _ inductionHypothesis =>
    rw [String.ofList_append, inductionHypothesis, List.map_cons, String.join_cons,
      String.append_assoc]

theorem Cuts.text_ne (cuts : tokenizer.Cuts text pieces rest) :
    ∀ piece ∈ pieces, piece.text ≠ "" := by
  induction cuts with
  | done => simp
  | piece wins _ inductionHypothesis =>
    refine List.forall_mem_cons.2 ⟨?_, inductionHypothesis⟩
    simpa using wins.word_ne

/-- Each piece begins and ends between two characters of the text. -/
theorem Cuts.isValid (cuts : tokenizer.Cuts text pieces rest) {front : List Token}
    (isPrefix : front <+: pieces) :
    String.Pos.Raw.IsValid (String.ofList text)
      ⟨(String.join (front.map (·.text))).utf8ByteSize⟩ := by
  obtain ⟨back, rfl⟩ := isPrefix
  refine String.Pos.Raw.isValid_iff_exists_append.2
    ⟨String.join (front.map (·.text)), String.join (back.map (·.text)) ++ String.ofList rest, ?_, rfl⟩
  rw [cuts.text_eq, List.map_append, String.join_append, String.append_assoc]

/-- A text has tokens exactly if it can be cut to its end, each piece by the first rule that takes
anything and as long as that rule takes it; the tokens are the pieces that are not white space. It is
refused exactly where such cutting comes to a rest of which no rule takes anything. The pieces and
the rest make up the text, no piece is empty, and none begins or ends within a character. -/
theorem tokenize_firstMatch (tokenizer : Tokenizer) (anchored : tokenizer.Anchored)
    (text : String) :
    (∀ tokens, tokenizer.tokenize text = .ok tokens ↔
      ∃ pieces, tokenizer.Cuts text.toList pieces [] ∧
        tokens = pieces.filter (·.kind ≠ .whitespace)) ∧
    (∀ rest, tokenizer.tokenize text = .error ⟨rest⟩ ↔
      rest ≠ "" ∧ tokenizer.Stuck rest.toList ∧
        ∃ pieces, tokenizer.Cuts text.toList pieces rest.toList) ∧
    ∀ pieces rest, tokenizer.Cuts text.toList pieces rest →
      text = String.join (pieces.map (·.text)) ++ String.ofList rest ∧
      (∀ piece ∈ pieces, piece.text ≠ "") ∧
      ∀ front, front <+: pieces →
        String.Pos.Raw.IsValid text ⟨(String.join (front.map (·.text))).utf8ByteSize⟩ := by
  refine ⟨fun tokens => ?_, fun rest => ?_, fun pieces rest cuts => ?_⟩
  · simp only [← pieces_eq_ok_iff anchored, tokenize]
    cases tokenizer.pieces text.toList with
    | error error => simp [Except.map]
    | ok pieces => simp [Except.map, eq_comm]
  · rw [← pieces_eq_error_iff anchored, tokenize]
    cases tokenizer.pieces text.toList with
    | error error => simp [Except.map]
    | ok pieces => simp [Except.map]
  · have text_eq := cuts.text_eq
    have isValid {front : List Token} (isPrefix : front <+: pieces) := cuts.isValid isPrefix
    rw [String.ofList_toList] at text_eq isValid
    exact ⟨text_eq, cuts.text_ne, fun _ => isValid⟩

/-- An empty match is passed over, and of two alternatives the first is taken and not the longer. -/
theorem tokenize_firstMatch_accented :
    let tokenizer : Tokenizer := ⟨[
      ⟨Dice.atStart (.many 0 none true (.char 'x')), .number⟩,
      ⟨Dice.atStart (.alt (.char 'a') (.seq (.char 'a') (.char 'b'))), .charSequence⟩,
      ⟨Dice.atStart (.many 1 none true (.char ' ')), .whitespace⟩,
      ⟨Dice.atStart (.many 1 none false (.one ⟨[('b', 'b'), ('é', 'é')], false⟩)), .literal⟩]⟩
    [("x*", Token.Kind.number), ("a|ab", .charSequence), (" +", .whitespace),
      ("(?:b|é)+?", .literal)].foldlM
        (fun table rule => table.add? rule.1 rule.2) ({} : Tokenizer) = some tokenizer ∧
    tokenizer.Anchored ∧
    (∃ pieces, tokenizer.Cuts "ab  éxx".toList pieces [] ∧
      [⟨.charSequence, "a"⟩, ⟨.literal, "b"⟩, ⟨.literal, "é"⟩, ⟨.number, "xx"⟩] =
        pieces.filter (·.kind ≠ .whitespace)) ∧
    tokenizer.Stuck "?a".toList ∧ ∃ pieces, tokenizer.Cuts "ab  éxx?a".toList pieces "?a".toList := by
  intro tokenizer
  have anchored : tokenizer.Anchored := anchored_of_atStart (by simp [tokenizer])
  have whole := (tokenize_firstMatch tokenizer anchored "ab  éxx").1
  have broken := (tokenize_firstMatch tokenizer anchored "ab  éxx?a").2.1
  refine ⟨by decide +kernel, anchored, (whole _).1 (by decide +kernel), ?_⟩
  exact ((broken "?a").1 (by decide +kernel)).2

end Tokenizer

end DiceCalculator
