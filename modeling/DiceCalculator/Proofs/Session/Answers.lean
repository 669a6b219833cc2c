import DiceCalculator.Proofs.Dice.Printing
import DiceCalculator.Proofs.Dice.Runs
import DiceCalculator.Proofs.Session.Independence
import Std.Data.String.ToInt

/-!
# Answers are unambiguous

Nothing is escaped in an answer, and a token may be a comma or an equality sign
like those that stand between and within the items. Yet only the first character
of a token can be such a sign. The rest of its text is letters and digits, so it
ends at the equality sign before its kind, and the kind ends at the next
separator. After each separator it is known whether another item follows, so the
items are told one after the other.
-/

namespace DiceCalculator

namespace Text

section Cutting

variable {sort : Char → Bool} {word other rest more : List Char}

theorem takeWhile_append_of_stops (inside : ∀ c ∈ word, sort c = true)
    (stops : ∀ c ∈ rest.head?, sort c = false) : (word ++ rest).takeWhile sort = word := by
  rw [List.takeWhile_append_of_pos inside]
  cases rest with
  | nil => simp
  | cons c rest => simp [stops c rfl]

/-- A row of characters of one sort ends where one of another sort follows. -/
theorem append_inj_of_stops (inside : ∀ c ∈ word, sort c = true)
    (insideToo : ∀ c ∈ other, sort c = true) (stops : ∀ c ∈ rest.head?, sort c = false)
    (stopsToo : ∀ c ∈ more.head?, sort c = false) (same : word ++ rest = other ++ more) :
    word = other ∧ rest = more := by
  have words : word = other := by
    rw [← takeWhile_append_of_stops inside stops, same,
      takeWhile_append_of_stops insideToo stopsToo]
  subst words
  exact ⟨rfl, List.append_cancel_left same⟩

end Cutting

section Listings

/-- The characters that end an item of a listing in brackets. -/
def separators : List Char :=
  [',', ']']

def BeginsApart (text : List Char) : Prop :=
  ∃ c ∈ separators, text.head? = some c

variable {α : Type} {shown : α → String} {valid : α → Prop} {a b : α} {as bs : List α}
  {rest more : List Char}

theorem BeginsApart.stops {sort : Char → Bool} (apart : BeginsApart rest)
    (outside : separators.all (!sort ·) = true) : ∀ c ∈ rest.head?, sort c = false := by
  obtain ⟨separator, listed, next⟩ := apart
  have other := List.all_eq_true.1 outside separator listed
  rw [next]
  rintro _ ⟨⟩
  simpa using other

/-- The text of an item tells the item, whatever follows its end, and is not taken for the end of
the listing. -/
structure Readable (shown : α → String) (valid : α → Prop) : Prop where
  exists_first {a : α} : valid a → ∃ c text, (shown a).toList = c :: text ∧ c ≠ ']'
  inj {a b : α} {rest more : List Char} : valid a → valid b → BeginsApart rest →
    BeginsApart more → (shown a).toList ++ rest = (shown b).toList ++ more → a = b ∧ rest = more

/-- What stands behind an item: all others, the closing bracket, and what is behind that. -/
def behind (shown : α → String) (others : List α) (rest : List Char) : List Char :=
  (others.flatMap fun next => ',' :: ' ' :: (shown next).toList) ++ ']' :: rest

theorem behind_cons :
    behind shown (a :: as) rest = ',' :: ' ' :: ((shown a).toList ++ behind shown as rest) := by
  simp [behind]

theorem beginsApart_behind (others : List α) (rest : List Char) :
    BeginsApart (behind shown others rest) := by
  cases others with
  | nil => exact ⟨']', by simp [separators], rfl⟩
  | cons next others => exact ⟨',', by simp [separators], rfl⟩

theorem toList_commaSeparated_cons (item : String) (items : List String) :
    (commaSeparated (item :: items)).toList =
      item.toList ++ items.flatMap fun next => ',' :: ' ' :: next.toList := by
  induction items generalizing item with
  | nil => simp [commaSeparated]
  | cons next items inductionHypothesis =>
    rw [commaSeparated, String.toList_append, String.toList_append, inductionHypothesis]
    simp

theorem toList_bracketed_nil (rest : List Char) :
    (bracketed []).toList ++ rest = '[' :: ']' :: rest := by
  simp [bracketed, commaSeparated]

theorem toList_bracketed_cons (a : α) (as : List α) (rest : List Char) :
    (bracketed ((a :: as).map shown)).toList ++ rest =
      '[' :: ((shown a).toList ++ behind shown as rest) := by
  simp [bracketed, toList_commaSeparated_cons, behind, List.flatMap_map]

namespace Readable

variable (readable : Readable shown valid)

include readable

/-- Behind an item the separator tells whether there is another one. -/
theorem behind_inj (validLeft : ∀ a ∈ as, valid a) (validRight : ∀ b ∈ bs, valid b)
    (same : behind shown as rest = behind shown bs more) : as = bs ∧ rest = more := by
  induction as generalizing bs with
  | nil =>
    cases bs with
    | nil => exact ⟨rfl, (List.cons.inj same).2⟩
    | cons b bs =>
      rw [behind_cons] at same
      exact absurd (List.cons.inj same).1 (by decide)
  | cons a as inductionHypothesis =>
    cases bs with
    | nil =>
      rw [behind_cons] at same
      exact absurd (List.cons.inj same).1 (by decide)
    | cons b bs =>
      obtain ⟨validHere, validOthers⟩ := List.forall_mem_cons.1 validLeft
      obtain ⟨validHereToo, validOthersToo⟩ := List.forall_mem_cons.1 validRight
      rw [behind_cons, behind_cons] at same
      have items := (List.cons.inj (List.cons.inj same).2).2
      obtain ⟨here, others⟩ := readable.inj validHere validHereToo (beginsApart_behind as rest)
        (beginsApart_behind bs more) items
      obtain ⟨there, after⟩ := inductionHypothesis validOthers validOthersToo others
      exact ⟨by rw [here, there], after⟩

/-- The first character behind the opening bracket tells an empty listing from any other. -/
theorem nil_ne_cons (validHere : valid b) :
    (bracketed []).toList ++ rest ≠ (bracketed ((b :: bs).map shown)).toList ++ more := by
  rw [toList_bracketed_nil, toList_bracketed_cons]
  intro same
  obtain ⟨c, text, written, notClosing⟩ := readable.exists_first validHere
  rw [written, List.cons_append] at same
  exact notClosing (List.cons.inj (List.cons.inj same).2).1.symm

/-- A listing in brackets tells its items and where it ends. -/
theorem bracketed_inj (validLeft : ∀ a ∈ as, valid a) (validRight : ∀ b ∈ bs, valid b)
    (same : (bracketed (as.map shown)).toList ++ rest =
      (bracketed (bs.map shown)).toList ++ more) : as = bs ∧ rest = more := by
  cases as with
  | nil =>
    cases bs with
    | nil => exact ⟨rfl, List.append_cancel_left same⟩
    | cons b bs => exact absurd same (readable.nil_ne_cons (validRight b List.mem_cons_self))
  | cons a as =>
    cases bs with
    | nil => exact absurd same.symm (readable.nil_ne_cons (validLeft a List.mem_cons_self))
    | cons b bs =>
      obtain ⟨validHere, validOthers⟩ := List.forall_mem_cons.1 validLeft
      obtain ⟨validHereToo, validOthersToo⟩ := List.forall_mem_cons.1 validRight
      rw [toList_bracketed_cons, toList_bracketed_cons] at same
      obtain ⟨here, others⟩ := readable.inj validHere validHereToo (beginsApart_behind as rest)
        (beginsApart_behind bs more) (List.cons.inj same).2
      obtain ⟨there, after⟩ := readable.behind_inj validOthers validOthersToo others
      exact ⟨by rw [here, there], after⟩

end Readable

end Listings

end Text

namespace Token.Kind

theorem isUpper_of_mem_label (kind : Kind) : ∀ c ∈ kind.label.toList, c.isUpper = true := by
  cases kind <;> exact List.all_eq_true.1 rfl

theorem label_inj {kind other : Kind} (same : kind.label = other.label) : kind = other := by
  cases kind <;> cases other <;> first
    | rfl
    | exact absurd same (by decide)

end Token.Kind

namespace Dice

/-- Of the text of a token only the first character can be a sign. -/
theorem Spells.isAlphanum_of_mem {kind : Token.Kind} {c : Char} {more : List Char}
    (spells : Spells kind (c :: more)) (kind_ne : kind ≠ .whitespace) :
    ∀ d ∈ more, d.isAlphanum = true := by
  have digit {d : Char} (inside : digits.contains d = true) : d.isAlphanum = true := by
    simp [Char.isAlphanum, contains_digits.1 inside]
  have letter {d : Char} (inside : letters.contains d = true) : d.isAlphanum = true := by
    simp [Char.isAlphanum, contains_letters.1 inside]
  intro d later
  cases kind with
  | whitespace => exact absurd rfl kind_ne
  | literal | arithOp | factorOp =>
    obtain ⟨_, _, single⟩ := spells
    cases single
    cases later
  | dice =>
    obtain ⟨_, _, _, parts, row⟩ := spells
    cases parts
    exact digit (row.2 d later)
  | number => exact digit (spells.2 d (List.mem_cons_of_mem c later))
  | charSequence => exact letter (spells.2 d (List.mem_cons_of_mem c later))

theorem WellFormed.exists_first {token : Token} (wellFormed : WellFormed token) :
    ∃ c more, token.text.toList = c :: more ∧ c ≠ ']' ∧ ∀ d ∈ more, d.isAlphanum = true := by
  obtain ⟨kind_ne, spells⟩ := wellFormed_iff.1 wellFormed
  obtain ⟨c, more, written, first⟩ := spells.exists_first
  rw [written] at spells
  refine ⟨c, more, written, ?_, spells.isAlphanum_of_mem kind_ne⟩
  rintro rfl
  revert first
  cases token.kind <;> decide

theorem wellFormed_of_mem {text : String} {tokens : List Token} (cut : tokenize text = .ok tokens) :
    ∀ token ∈ tokens, WellFormed token :=
  fun token isToken =>
    wellFormed_iff.2 ⟨kind_ne_of_mem cut token isToken, spells_of_mem cut token isToken⟩

theorem toList_display (token : Token) :
    token.display.toList = token.text.toList ++ '=' :: token.kind.label.toList := by
  simp [Token.display]

theorem readable_token : Text.Readable Token.display WellFormed where
  exists_first {token} wellFormed := by
    obtain ⟨c, more, written, notClosing, -⟩ := wellFormed.exists_first
    refine ⟨c, more ++ '=' :: token.kind.label.toList, ?_, notClosing⟩
    rw [toList_display, written, List.cons_append]
  inj := by
    rintro ⟨kind, text⟩ ⟨otherKind, otherText⟩ rest more wellFormed wellFormedToo apart apartToo
      same
    obtain ⟨first, others, written, -, alphanum⟩ := wellFormed.exists_first
    obtain ⟨firstToo, othersToo, writtenToo, -, alphanumToo⟩ := wellFormedToo.exists_first
    dsimp only at written writtenToo
    rw [toList_display, toList_display, written, writtenToo] at same
    simp only [List.cons_append, List.append_assoc] at same
    obtain ⟨firsts, tails⟩ := List.cons.inj same
    -- the first equality sign behind the first character is the one before the kind
    have stops (tail : List Char) : ∀ c ∈ ('=' :: tail).head?, c.isAlphanum = false := by
      rintro _ ⟨⟩
      rfl
    obtain ⟨others_eq, kinds⟩ :=
      Text.append_inj_of_stops alphanum alphanumToo (stops _) (stops _) tails
    obtain ⟨labels, after⟩ := Text.append_inj_of_stops kind.isUpper_of_mem_label
      otherKind.isUpper_of_mem_label (apart.stops rfl) (apartToo.stops rfl) (List.cons.inj kinds).2
    have texts : text = otherText := by
      rw [← String.toList_inj, written, writtenToo, firsts, others_eq]
    rw [texts, Token.Kind.label_inj (String.toList_inj.1 labels)]
    exact ⟨rfl, after⟩

/-- The characters of printed values. -/
def isDecimal (c : Char) : Bool :=
  c = '-' || c.isDigit

theorem isDecimal_of_mem_repr (n : Nat) : ∀ c ∈ n.repr.toList, isDecimal c = true := by
  intro c member
  simp [isDecimal, contains_digits.1 ((row_repr n).2 c member)]

theorem isDecimal_of_mem_display (a : Value) : ∀ c ∈ a.display.toList, isDecimal c = true := by
  rw [Value.display, Int.repr_eq_if]
  split_ifs
  · exact isDecimal_of_mem_repr _
  · rw [String.toList_append]
    exact List.forall_mem_append.2 ⟨List.all_eq_true.1 rfl, isDecimal_of_mem_repr _⟩

theorem toList_display_ne_nil (a : Value) : a.display.toList ≠ [] := by
  rw [Value.display, Int.repr_eq_if]
  split_ifs
  · exact (row_repr _).1
  · simp

theorem readable_value : Text.Readable Value.display fun _ => True where
  exists_first {a} _ := by
    obtain ⟨c, text, written⟩ := List.exists_cons_of_ne_nil (toList_display_ne_nil a)
    refine ⟨c, text, written, ?_⟩
    rintro rfl
    exact absurd (isDecimal_of_mem_display a ']' (by simp [written])) (by decide)
  inj := by
    intro a b rest more _ _ apart apartToo same
    obtain ⟨texts, after⟩ := Text.append_inj_of_stops (isDecimal_of_mem_display a)
      (isDecimal_of_mem_display b) (apart.stops rfl) (apartToo.stops rfl) same
    exact ⟨Value.ext (Int.repr_inj.1 (String.toList_inj.1 texts)), after⟩

end Dice

namespace Outcome

open Dice

/-- What is shown of an outcome tells its tokens and its values. -/
theorem display_inj {outcome other : Outcome}
    (wellFormed : ∀ token ∈ outcome.tokens, WellFormed token)
    (wellFormedToo : ∀ token ∈ other.tokens, WellFormed token)
    (same : outcome.display = other.display) : outcome = other := by
  obtain ⟨tokens, values⟩ := outcome
  obtain ⟨tokensToo, valuesToo⟩ := other
  have texts := congrArg String.toList same
  simp only [display, String.toList_append, List.append_assoc] at texts
  obtain ⟨rfl, lines⟩ := readable_token.bracketed_inj wellFormed wellFormedToo texts
  have listings := congrArg (· ++ []) (List.append_cancel_left lines)
  obtain ⟨lists, -⟩ :=
    readable_value.bracketed_inj (fun _ _ => trivial) (fun _ _ => trivial) listings
  rw [Values.toList_inj.1 lists]

/-- It begins with a bracket, unlike the answer to a text that cannot be rolled. -/
theorem display_ne_cannotParse (outcome : Outcome) : outcome.display ≠ Session.cannotParse := by
  intro same
  have first := congrArg (fun text => text.toList.head?) same
  simp [display, Text.bracketed, Session.cannotParse] at first

end Outcome

open Dice

namespace Session

variable {σ : Type} [Roller σ]

theorem text_answer (session : Session σ) (text : String) :
    (session.answer text).result.1 =
      match (session.roll text).result.1 with
      | .ok outcome => outcome.display
      | .error _ => cannotParse := by
  rw [answer, Logged.result_bind]
  rcases (session.roll text).result with ⟨error | outcome, later⟩ <;> rfl

/-- What is rolled has the tokens of its text. -/
theorem tokenize_of_roll {session : Session σ} {text : String} {outcome : Outcome}
    (rolled : (session.roll text).result.1 = .ok outcome) :
    tokenize text = .ok outcome.tokens := by
  have fits : text.utf8ByteSize ≤ session.config.maxInputLength := by
    by_contra long
    rw [result_roll_of_lt (Nat.not_le.1 long)] at rolled
    cases rolled
  rw [result_roll_of_le fits, Context.result_rollText] at rolled
  cases cut : tokenize text with
  | error error =>
    rw [cut] at rolled
    cases rolled
  | ok tokens =>
    cases parsed : (grammar.parse tokens).found with
    | none =>
      simp only [cut, parsed] at rolled
      cases rolled
    | some found =>
      simp only [cut, parsed] at rolled
      cases run : ((evaluate found.tree).runIn session.context.reset).1 with
      | error error =>
        rw [run] at rolled
        cases rolled
      | ok values =>
        rw [run] at rolled
        cases rolled
        rfl

end Session

/-- Tokens of any texts and any values are told from what is shown of them. A session answers that
a text cannot be parsed exactly if it fails to roll it in the same state. Any other answer shows
what is rolled, and no session whatever gives it unless it rolls the same tokens and values. -/
theorem answer_unambiguous :
    (∀ {text textToo : String} {tokens tokensToo : List Token} (values valuesToo : Values),
      tokenize text = .ok tokens → tokenize textToo = .ok tokensToo →
      (Outcome.mk tokens values).display = (Outcome.mk tokensToo valuesToo).display →
      tokens = tokensToo ∧ values = valuesToo) ∧
    ∀ {σ : Type} [Roller σ] (session : Session σ) (text : String),
      ((session.answer text).result.1 = Session.cannotParse ↔
        ∃ error, (session.roll text).result.1 = .error error) ∧
      ∀ outcome, (session.roll text).result.1 = .ok outcome →
        (session.answer text).result.1 = outcome.display ∧
        ∀ {τ : Type} [Roller τ] (other : Session τ) (textToo : String),
          (other.answer textToo).result.1 = (session.answer text).result.1 →
          (other.roll textToo).result.1 = .ok outcome := by
  refine ⟨?_, fun session text => ⟨?_, ?_⟩⟩
  · intro text textToo tokens tokensToo values valuesToo cut cutToo same
    have outcomes : Outcome.mk tokens values = ⟨tokensToo, valuesToo⟩ :=
      Outcome.display_inj (wellFormed_of_mem cut) (wellFormed_of_mem cutToo) same
    cases outcomes
    exact ⟨rfl, rfl⟩
  · rw [Session.text_answer]
    cases (session.roll text).result.1 with
    | error error => exact iff_of_true rfl ⟨error, rfl⟩
    | ok outcome => exact iff_of_false outcome.display_ne_cannotParse nofun
  · intro outcome rolled
    rw [Session.text_answer, rolled]
    refine ⟨rfl, fun other textToo same => ?_⟩
    rw [Session.text_answer] at same
    cases rolledToo : (other.roll textToo).result.1 with
    | error error =>
      rw [rolledToo] at same
      exact absurd same.symm outcome.display_ne_cannotParse
    | ok outcomeToo =>
      rw [rolledToo] at same
      rw [Outcome.display_inj (wellFormed_of_mem (Session.tokenize_of_roll rolledToo))
        (wellFormed_of_mem (Session.tokenize_of_roll rolled)) same]

/-- Commas and equality signs are told from the separators, wherever they stand. -/
theorem answer_unambiguous_signs :
    let signs : List Token := [⟨.literal, ","⟩, ⟨.literal, "="⟩]
    let same : List Token := [",", "="].map (Token.mk .literal)
    let session := Session.start {} ({} : Highest)
    let outcome : Outcome := ⟨[⟨.charSequence, "x"⟩, ⟨.literal, "="⟩, ⟨.number, "1"⟩,
      ⟨.literal, ","⟩, ⟨.dice, "d6"⟩], ⟨1, [6]⟩⟩
    (tokenize ",=" = .ok signs ∧ tokenize ", =" = .ok same ∧
      signs = same ∧ (⟨1, [2]⟩ : Values) = .single 1 ++ .single 2) ∧
    (session.answer "x=1,d6").result.1 =
      "[x=CHARSEQUENCE, ==LITERAL, 1=NUMBER, ,=LITERAL, d6=DICE]\n[1, 6]" ∧
    (session.roll "x = 1, d6").result.1 = .ok outcome := by
  intro signs same session outcome
  have cut : tokenize ",=" = .ok signs := by decide +kernel
  have cutToo : tokenize ", =" = .ok same := by decide +kernel
  have told := answer_unambiguous.1 ⟨1, [2]⟩ (.single 1 ++ .single 2) cut cutToo (by decide +kernel)
  have rolled : (session.roll "x=1,d6").result.1 = .ok outcome := by decide +kernel
  have shown : (session.answer "x = 1, d6").result.1 = (session.answer "x=1,d6").result.1 := by
    decide +kernel
  obtain ⟨answered, only⟩ := (answer_unambiguous.2 session "x=1,d6").2 outcome rolled
  exact ⟨⟨cut, cutToo, told⟩, answered.trans (by decide +kernel), only session "x = 1, d6" shown⟩

end DiceCalculator
