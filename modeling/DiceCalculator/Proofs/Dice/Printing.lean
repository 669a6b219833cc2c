import DiceCalculator.Proofs.Dice.Lexing
import Mathlib.Data.List.Chain

/-!
# Tokens survive printing

The tokens of a text are those that some rule other than the one of white space
matches as a whole, and any such tokens can be tokens of a text: printed with
white space between them they come back as they were. So white space is all that
is lost when a text is cut into tokens.
-/

namespace DiceCalculator

namespace Pattern

theorem HasWords.fullyMatches_iff {pattern : Pattern} {word : List Char → Prop}
    (hasWords : pattern.HasWords word) (text : String) :
    (Dice.atStart pattern).FullyMatches text ↔ word text.toList := by
  have whole := hasWords ⟨0, none, text.toList⟩ []
  simp only [List.append_nil, exists_eq_right'] at whole
  rw [← whole]
  constructor
  · rintro ⟨there, spans, ends⟩
    cases spans with
    | seq before after =>
      cases before
      exact ⟨there, after, ends⟩
  · rintro ⟨there, spans, ends⟩
    exact ⟨there, .seq (.assert rfl) spans, ends⟩

end Pattern

namespace Dice

open Pattern

/-- The token is not white space, and the rule of its kind matches its whole text. -/
structure WellFormed (token : Token) : Prop where
  kind_ne : token.kind ≠ .whitespace
  exists_rule : ∃ rule ∈ tokenizer.rules,
    rule.kind = token.kind ∧ rule.pattern.FullyMatches token.text

theorem fullyMatches_iff_spells (text : String) : ∀ rule ∈ tokenizer.rules,
    (rule.pattern.FullyMatches text ↔ Spells rule.kind text.toList) := by
  intro rule known
  obtain ⟨pattern, shape, hasWords⟩ := hasWords_spells rule known
  rw [shape, hasWords.fullyMatches_iff]

/-- The search agrees: it takes the whole text if some way through the pattern does. -/
theorem fullyMatches_iff_matchEnd? (text : String) : ∀ rule ∈ tokenizer.rules,
    (rule.pattern.FullyMatches text ↔
      rule.pattern.matchEnd? text.toList = some text.toList.length) := by
  intro rule known
  rw [fullyMatches_iff_spells text rule known]
  constructor
  · intro spells
    have whole : rule.pattern.matchEnd? (text.toList ++ []) = some text.toList.length :=
      matchEnd?_of_spells rule known spells nofun
    rwa [List.append_nil] at whole
  · intro matched
    obtain ⟨pattern, shape, hasWords⟩ := hasWords_spells rule known
    rw [shape] at matched
    simpa using hasWords.word_take matched

theorem wellFormed_iff {token : Token} :
    WellFormed token ↔ token.kind ≠ .whitespace ∧ Spells token.kind token.text.toList := by
  constructor
  · rintro ⟨kind_ne, rule, known, same, matched⟩
    exact ⟨kind_ne, same ▸ (fullyMatches_iff_spells token.text rule known).1 matched⟩
  · rintro ⟨kind_ne, spells⟩
    obtain ⟨before, rule, after, table, same, -⟩ := exists_split token.kind
    have known : rule ∈ tokenizer.rules := by simp [table]
    exact ⟨kind_ne, rule, known, same,
      (fullyMatches_iff_spells token.text rule known).2 (same.symm ▸ spells)⟩

def numeral (n : Nat) : Token :=
  ⟨.number, n.repr⟩

def minus : Token :=
  ⟨.arithOp, "-"⟩

def comma : Token :=
  ⟨.literal, ","⟩

def opening : Token :=
  ⟨.literal, "("⟩

def closing : Token :=
  ⟨.literal, ")"⟩

theorem wellFormed_numeral (n : Nat) : WellFormed (numeral n) :=
  wellFormed_iff.2 ⟨nofun, row_repr n⟩

theorem wellFormed_minus : WellFormed minus :=
  wellFormed_iff.2 ⟨nofun, '-', by simp, rfl⟩

theorem wellFormed_comma : WellFormed comma :=
  wellFormed_iff.2 ⟨nofun, ',', by simp, rfl⟩

theorem wellFormed_opening : WellFormed opening :=
  wellFormed_iff.2 ⟨nofun, '(', by simp, rfl⟩

theorem wellFormed_closing : WellFormed closing :=
  wellFormed_iff.2 ⟨nofun, ')', by simp, rfl⟩

theorem kind_ne_of_mem {text : String} {tokens : List Token} (cut : tokenize text = .ok tokens) :
    ∀ token ∈ tokens, token.kind ≠ .whitespace := by
  obtain ⟨pieces, -, rfl⟩ := Tokenizer.exists_of_map_eq_ok cut
  intro token isToken
  simpa using (List.mem_filter.1 isToken).2

/-- White space or nothing. -/
def Blank (gap : String) : Prop :=
  ∀ c ∈ gap.toList, blanks.contains c = true

instance : DecidablePred Blank := fun gap =>
  decidable_of_iff (gap.toList.all blanks.contains = true) List.all_eq_true

/-- The texts of the tokens, each after its gap, and then the last gap. -/
def joined (pieces : List (String × Token)) (last : String) : String :=
  pieces.foldr (fun piece rest => piece.1 ++ (piece.2.text ++ rest)) last

variable {token : Token} {kind : Token.Kind} {gap rest last : String}
  {pieces : List (String × Token)}

theorem tokenize_gap (blank : Blank gap) (ends : Ends .whitespace rest.toList) :
    tokenize (gap ++ rest) = tokenize rest := by
  by_cases empty : gap = ""
  · rw [empty, String.empty_append]
  · have row : Spells .whitespace gap.toList := ⟨by simpa using empty, blank⟩
    rw [tokenize, Tokenizer.tokenize, String.toList_append,
      pieces_of_spells row (ends.breaks.leaves _), tokenize, Tokenizer.tokenize]
    cases tokenizer.pieces rest.toList <;> rfl

theorem tokenize_token (wellFormed : WellFormed token) (breaks : Breaks token.kind rest.toList) :
    tokenize (token.text ++ rest) = (tokenize rest).map (token :: ·) := by
  obtain ⟨kind_ne, spells⟩ := wellFormed_iff.1 wellFormed
  rw [tokenize, Tokenizer.tokenize, String.toList_append,
    pieces_of_spells spells (breaks.leaves _), tokenize, Tokenizer.tokenize, String.ofList_toList]
  cases tokenizer.pieces rest.toList with
  | error error => rfl
  | ok others => simp [Except.map, kind_ne]

theorem ends_token (wellFormed : WellFormed token) (rest : String) :
    Ends .whitespace (token.text ++ rest).toList := by
  obtain ⟨kind_ne, spells⟩ := wellFormed_iff.1 wellFormed
  obtain ⟨c, others, written, first⟩ := spells.exists_first
  intro d next
  rw [String.toList_append, written, List.cons_append, List.head?_cons, Option.mem_some] at next
  subst next
  refine iff_of_false ?_ (not_not_intro rfl)
  intro blank
  obtain same | ⟨-, same⟩ | ⟨-, same⟩ :=
    kind_eq_of_contains first (show (firsts .whitespace).contains c = true from blank)
  · exact kind_ne same
  · cases same
  · cases same

theorem ends_of_blank {text : List Char} (kind_ne : kind ≠ .whitespace)
    (blank : ∀ c ∈ text.head?, blanks.contains c = true) : Ends kind text :=
  fun c next => iff_of_true (blank c next) kind_ne

/-- The next gap or, where there is none, the next token breaks off what is before it. -/
theorem breaks_joined (gaps : ∀ piece ∈ pieces, Blank piece.1) (blank : Blank last)
    (kind_ne : kind ≠ .whitespace)
    (apart : ∀ next ∈ pieces.head?, next.1 = "" →
      ∀ rest, Breaks kind (next.2.text.toList ++ rest)) :
    Breaks kind (joined pieces last).toList := by
  cases pieces with
  | nil =>
    have ends : Ends kind last.toList :=
      ends_of_blank kind_ne fun c next => blank c (List.mem_of_mem_head? next)
    exact ends.breaks
  | cons piece pieces =>
    rw [joined, List.foldr_cons, String.toList_append, String.toList_append]
    by_cases empty : piece.1 = ""
    · rw [empty, String.toList_empty, List.nil_append]
      exact apart piece rfl empty _
    · refine (ends_of_blank kind_ne fun c next => ?_).breaks
      rw [List.head?_append_of_ne_nil _ (by simpa using empty)] at next
      exact gaps piece List.mem_cons_self c (List.mem_of_mem_head? next)

/-- Tokens come back, whatever white space is between them, and also if there is none where the next
token breaks off the one before it. -/
theorem tokenize_joined (each : ∀ piece ∈ pieces, Blank piece.1 ∧ WellFormed piece.2)
    (apart : pieces.IsChain fun before piece =>
      piece.1 = "" → ∀ rest, Breaks before.2.kind (piece.2.text.toList ++ rest))
    (blank : Blank last) : tokenize (joined pieces last) = .ok (pieces.map Prod.snd) := by
  induction pieces with
  | nil =>
    have gap : tokenize (last ++ "") = tokenize "" := tokenize_gap blank nofun
    rw [String.append_empty] at gap
    rw [joined, List.foldr_nil, gap, tokenize, Tokenizer.tokenize, String.toList_empty,
      Tokenizer.pieces]
    rfl
  | cons piece pieces inductionHypothesis =>
    obtain ⟨⟨blankHere, wellFormed⟩, others⟩ := List.forall_mem_cons.1 each
    obtain ⟨next, apart⟩ := List.isChain_cons.1 apart
    have rest := inductionHypothesis others apart
    have breaks := breaks_joined (fun piece isPiece => (others piece isPiece).1) blank
      (wellFormed_iff.1 wellFormed).1 next
    calc tokenize (piece.1 ++ (piece.2.text ++ joined pieces last))
      _ = tokenize (piece.2.text ++ joined pieces last) :=
        tokenize_gap blankHere (ends_token wellFormed _)
      _ = (tokenize (joined pieces last)).map (piece.2 :: ·) := tokenize_token wellFormed breaks
      _ = .ok (piece.2 :: pieces.map Prod.snd) := by rw [rest]; rfl

/-- The kinds whose tokens are one character each. -/
def marks : List Token.Kind :=
  [.literal, .arithOp, .factorOp]

/-- Whatever follows them, signs and punctuation are tokens by themselves. -/
theorem breaks_after_mark (mark : kind ∈ marks) (rest : List Char) : Breaks kind rest := by
  simp only [marks, List.mem_cons, List.not_mem_nil, or_false] at mark
  rcases mark with rfl | rfl | rfl <;> exact ⟨fun _ _ => rfl, nofun⟩

/-- And they break off whatever is before them. -/
theorem breaks_before_mark (wellFormed : WellFormed token) (mark : token.kind ∈ marks)
    (kind : Token.Kind) (rest : List Char) : Breaks kind (token.text.toList ++ rest) := by
  obtain ⟨-, spells⟩ := wellFormed_iff.1 wellFormed
  obtain ⟨c, others, written, first⟩ := spells.exists_first
  have stops (other : Token.Kind) (outside : other ∉ marks) (notDice : other ≠ .dice) :
      Stops (firsts other) (token.text.toList ++ rest) := by
    rw [written, List.cons_append, stops_cons]
    refine not_contains_of_contains first ?_ other ?_ notDice
    · rintro same
      simp [same, marks] at mark
    · rintro rfl
      exact outside mark
  constructor
  · cases kind with
    | literal | arithOp | factorOp => exact (breaks_after_mark (by simp [marks]) _).extension
    | dice | number => exact stops .number (by simp [marks]) nofun
    | charSequence => exact stops .charSequence (by simp [marks]) nofun
    | whitespace => exact stops .whitespace (by simp [marks]) nofun
  · exact fun _ => stops .number (by simp [marks]) nofun

/-- And so does a die that follows a number. -/
theorem breaks_before_dice (wellFormed : WellFormed token) (isDice : token.kind = .dice)
    (rest : List Char) : Breaks .number (token.text.toList ++ rest) := by
  obtain ⟨-, spells⟩ := wellFormed_iff.1 wellFormed
  obtain ⟨c, listed, number, written, -⟩ := (isDice ▸ spells : Spells .dice token.text.toList)
  refine ⟨?_, nofun⟩
  rw [written, List.cons_append, extension, stops_cons]
  rcases List.mem_cons.1 listed with rfl | listed
  · rfl
  · cases List.mem_singleton.1 listed
    rfl

/-- No token goes on with the next one, so that they need no white space between them. -/
structure Spaced (tokens : List Token) : Prop where
  wellFormed : ∀ token ∈ tokens, WellFormed token
  apart : tokens.IsChain fun before token =>
    ∀ rest, Breaks before.kind (token.text.toList ++ rest)

namespace Spaced

theorem singleton (wellFormed : WellFormed token) : Spaced [token] where
  wellFormed := by simpa using wellFormed
  apart := List.isChain_singleton token

theorem mark {us vs : List Token} (front : Spaced us) (isMark : token.kind ∈ marks)
    (wellFormed : WellFormed token) (back : Spaced vs) : Spaced (us ++ token :: vs) where
  wellFormed := by
    rw [List.forall_mem_append, List.forall_mem_cons]
    exact ⟨front.wellFormed, wellFormed, back.wellFormed⟩
  apart := by
    rw [List.isChain_append, List.isChain_cons]
    refine ⟨front.apart, ⟨fun _ _ _ => breaks_after_mark isMark _, back.apart⟩, ?_⟩
    rintro _ _ _ ⟨⟩
    exact breaks_before_mark wellFormed isMark _

theorem tokenize_joined (spaced : Spaced (pieces.map Prod.snd))
    (blanks : ∀ piece ∈ pieces, Blank piece.1) (blank : Blank last) :
    tokenize (joined pieces last) = .ok (pieces.map Prod.snd) := by
  have wellFormed := List.forall_mem_map.1 spaced.wellFormed
  refine Dice.tokenize_joined ?_ ?_ blank
  · exact fun piece isPiece => ⟨blanks piece isPiece, wellFormed piece isPiece⟩
  · exact ((List.isChain_map Prod.snd).1 spaced.apart).imp fun _ _ apart _ => apart

end Spaced

theorem tokenize_separated (each : ∀ piece ∈ pieces, Blank piece.1 ∧ WellFormed piece.2)
    (apart : ∀ piece ∈ pieces.tail, piece.1 ≠ "") (blank : Blank last) :
    tokenize (joined pieces last) = .ok (pieces.map Prod.snd) := by
  refine tokenize_joined each ?_ blank
  refine (List.isChain_isInfix pieces).imp_of_mem_tail_imp ?_
  intro _ piece _ later _ empty
  exact absurd empty (apart piece later)

/-- Some text is cut into the tokens. -/
theorem exists_text {tokens : List Token} (wellFormed : ∀ token ∈ tokens, WellFormed token) :
    ∃ text, tokenize text = .ok tokens := by
  have blank : Blank " " := List.all_eq_true.1 rfl
  have kept : (tokens.map fun token => (" ", token)).map Prod.snd = tokens := by
    rw [List.map_map]
    exact List.map_id tokens
  refine ⟨_, (tokenize_separated ?_ ?_ blank).trans (congrArg Except.ok kept)⟩
  · exact List.forall_mem_map.2 fun token isToken => ⟨blank, wellFormed token isToken⟩
  · rw [← List.map_tail]
    exact List.forall_mem_map.2 fun token _ => by simp

/-- What the tokenizer gives is well formed, and whatever is well formed comes back from the text
that is printed of it, with white space of any sort between the tokens and also around them. -/
theorem tokenize_wellFormed :
    (∀ text tokens, tokenize text = .ok tokens → ∀ token ∈ tokens, WellFormed token) ∧
    ∀ (pieces : List (String × Token)) (last : String),
      (∀ piece ∈ pieces, Blank piece.1 ∧ WellFormed piece.2) →
      (∀ piece ∈ pieces.tail, piece.1 ≠ "") → Blank last →
      tokenize (joined pieces last) = .ok (pieces.map Prod.snd) := by
  refine ⟨fun text tokens cut token isToken => ?_, fun pieces last => tokenize_separated⟩
  exact wellFormed_iff.2 ⟨kind_ne_of_mem cut token isToken, spells_of_mem cut token isToken⟩

theorem tokenize_wellFormed_spaced :
    tokenize "  d6\t+ 2" = .ok [⟨.dice, "d6"⟩, ⟨.arithOp, "+"⟩, ⟨.number, "2"⟩] := by
  refine tokenize_wellFormed.2
    [("  ", ⟨.dice, "d6"⟩), ("\t", ⟨.arithOp, "+"⟩), (" ", ⟨.number, "2"⟩)] "" ?_ (by simp)
    (List.all_eq_true.1 rfl)
  have digit (c : Char) (inside : digits.contains c = true) : Row digits [c] :=
    ⟨List.cons_ne_nil c [], by simpa using inside⟩
  simp only [List.forall_mem_cons]
  refine ⟨⟨List.all_eq_true.1 rfl, wellFormed_iff.2 ⟨nofun, ?dice⟩⟩,
    ⟨List.all_eq_true.1 rfl, wellFormed_iff.2 ⟨nofun, ?sign⟩⟩,
    ⟨List.all_eq_true.1 rfl, wellFormed_iff.2 ⟨nofun, ?number⟩⟩, nofun⟩
  case dice => exact ⟨'d', by simp, ['6'], rfl, digit '6' rfl⟩
  case sign => exact ⟨'+', by simp, rfl⟩
  case number => exact digit '2' rfl

end Dice

end DiceCalculator
