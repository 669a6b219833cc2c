import DiceCalculator.Proofs.Dice.Lexing
import Mathlib.Data.List.SplitBy
import Mathlib.Data.List.TakeWhile

/-!
# Runs of characters

The tokenizer looks at what comes next and at no more. Yet what it does to a
whole text can be said without it: the text falls into runs of digits, runs of
letters, runs of white space and single signs, and a `d` that is a run by itself
goes together with the digits directly behind it. It stops at the first
character that belongs to no run. The invariant is that no run goes on in what
follows it, so that each rule takes the whole of its run.
-/

namespace DiceCalculator.Dice

open Pattern

/-- The kind of a run of such characters. -/
def kindOf? (c : Char) : Option Token.Kind :=
  if c.isDigit then some .number
  else if c.isAlpha then some .charSequence
  else if c ∈ [' ', '\t', '\n', '\x0b', '\x0c', '\r'] then some .whitespace
  else if c ∈ [',', '=', '(', ')', '.'] then some .literal
  else if c ∈ ['+', '-'] then some .arithOp
  else if c ∈ ['*', '/'] then some .factorOp
  else none

def isKnown (c : Char) : Bool :=
  (kindOf? c).isSome

/-- The kinds whose runs may be longer. Each sign and each mark is a run by itself. -/
def rows : List Token.Kind :=
  [.number, .charSequence, .whitespace]

def sameRun (a b : Char) : Bool :=
  kindOf? a = kindOf? b ∧ kindOf? a ∈ rows.map some

/-- A run is of the kind of its first character. -/
def ofRun? (run : List Char) : Option Token :=
  (run.head?.bind kindOf?).map fun kind => ⟨kind, String.ofList run⟩

/-- The maximal runs of the text, those of white space included. -/
def runs (text : List Char) : List Token :=
  (text.splitBy sameRun).filterMap ofRun?

/-- A `d` that is a run by itself becomes dice with the digits directly behind it. -/
def glue : List Token → List Token
  | [] => []
  | [token] => [token]
  | first :: second :: rest =>
    if first.text ∈ ["d", "D"] ∧ second.kind = .number then
      ⟨.dice, first.text ++ second.text⟩ :: glue rest
    else first :: glue (second :: rest)

section Characters

variable {c : Char} {kind : Token.Kind}

theorem contains_letters : letters.contains c = true ↔ c.isAlpha = true := by
  have alpha : c.isAlpha = (decide ('A' ≤ c ∧ c ≤ 'Z') || (decide ('a' ≤ c) && decide (c ≤ 'z'))) :=
    rfl
  simp [letters, CharSet.contains_ranges, alpha]

theorem contains_blanks :
    blanks.contains c = true ↔ c ∈ [' ', '\t', '\n', '\x0b', '\x0c', '\r'] := by
  have code (d : Char) : c = d ↔ c.toNat = d.toNat := Char.toNat_inj.symm
  simp only [blanks, CharSet.contains_ranges, le_iff_toNat_le, List.mem_cons, List.not_mem_nil,
    or_false, exists_eq_or_imp, exists_eq_left, code, Char.reduceToNat]
  omega

theorem contains_of_kindOf? (known : kindOf? c = some kind) :
    kind ≠ .dice ∧ (firsts kind).contains c = true := by
  unfold kindOf? at known
  split_ifs at known with digit letter blank mark sign factor <;> cases known
  · exact ⟨nofun, contains_digits.2 digit⟩
  · exact ⟨nofun, contains_letters.2 letter⟩
  · exact ⟨nofun, contains_blanks.2 blank⟩
  · exact ⟨nofun, contains_each.2 mark⟩
  · exact ⟨nofun, contains_each.2 sign⟩
  · exact ⟨nofun, contains_each.2 (by simpa [or_comm] using factor)⟩

theorem isKnown_of_contains (first : (firsts kind).contains c = true) : isKnown c = true := by
  by_contra unknown
  have none : kindOf? c = none := by simpa [isKnown] using unknown
  unfold kindOf? at none
  split_ifs at none with digit letter blank mark sign factor
  cases kind with
  | number => exact digit (contains_digits.1 first)
  | charSequence => exact letter (contains_letters.1 first)
  | whitespace => exact blank (contains_blanks.1 first)
  | literal => exact mark (contains_each.1 first)
  | arithOp => exact sign (contains_each.1 first)
  | factorOp => exact factor (by simpa [or_comm] using contains_each.1 first)
  | dice =>
    have listed := contains_each.1 first
    simp only [List.mem_cons, List.not_mem_nil, or_false] at listed
    rcases listed with rfl | rfl <;> exact letter rfl

/-- The kinds of single characters are those with whose tokens they begin, except for dice. -/
theorem kindOf?_eq_some_iff :
    kindOf? c = some kind ↔ kind ≠ .dice ∧ (firsts kind).contains c = true := by
  constructor
  · exact contains_of_kindOf?
  · rintro ⟨notDice, first⟩
    obtain ⟨other, known⟩ := Option.isSome_iff_exists.1 (isKnown_of_contains first)
    obtain ⟨otherNotDice, firstToo⟩ := contains_of_kindOf? known
    obtain rfl | ⟨same, -⟩ | ⟨-, same⟩ := kind_eq_of_contains first firstToo
    · exact known
    · exact absurd same notDice
    · exact absurd same otherNotDice

theorem kindOf?_of_extension (inside : (extension kind).contains c = true) :
    ∃ row ∈ rows, kindOf? c = some row ∧ (kind ≠ .dice → kind = row) := by
  cases kind with
  | literal | arithOp | factorOp => cases inside
  | number => exact ⟨.number, by simp [rows], kindOf?_eq_some_iff.2 ⟨nofun, inside⟩, fun _ => rfl⟩
  | dice => exact ⟨.number, by simp [rows], kindOf?_eq_some_iff.2 ⟨nofun, inside⟩, by simp⟩
  | charSequence =>
    exact ⟨.charSequence, by simp [rows], kindOf?_eq_some_iff.2 ⟨nofun, inside⟩, fun _ => rfl⟩
  | whitespace =>
    exact ⟨.whitespace, by simp [rows], kindOf?_eq_some_iff.2 ⟨nofun, inside⟩, fun _ => rfl⟩

theorem sameRun_iff {a b : Char} :
    sameRun a b = true ↔ ∃ row ∈ rows, kindOf? a = some row ∧ kindOf? b = some row := by
  simp only [sameRun, decide_eq_true_eq, List.mem_map]
  constructor
  · rintro ⟨same, row, inRows, first⟩
    exact ⟨row, inRows, first.symm, same.symm.trans first.symm⟩
  · rintro ⟨row, inRows, first, second⟩
    exact ⟨first.trans second.symm, row, inRows, first.symm⟩

end Characters

/-- All characters of the token are of its kind, and there are more than one only in a row. -/
structure IsRun (token : Token) : Prop where
  text_ne : token.text.toList ≠ []
  kinds : ∀ c ∈ token.text.toList, kindOf? c = some token.kind
  single : token.kind ∉ rows → ∃ c, token.text.toList = [c]

/-- The word does not go on in the rest. -/
def Apart (word rest : List Char) : Prop :=
  ∀ a ∈ word.getLast?, ∀ b ∈ rest.head?, sameRun a b = false

section Runs

variable {token : Token} {run text rest : List Char}

theorem exists_isRun (run_ne : run ≠ []) (known : ∀ c ∈ run, isKnown c = true)
    (chain : run.IsChain fun a b => sameRun a b) :
    ∃ kind, ofRun? run = some ⟨kind, String.ofList run⟩ ∧ IsRun ⟨kind, String.ofList run⟩ := by
  obtain ⟨c, others, rfl⟩ := List.exists_cons_of_ne_nil run_ne
  obtain ⟨kind, first⟩ := Option.isSome_iff_exists.1 (known c List.mem_cons_self)
  have equal : (c :: others).Pairwise fun a b => kindOf? a = kindOf? b := by
    refine List.isChain_iff_pairwise.1 (chain.imp ?_)
    intro a b same
    obtain ⟨row, -, left, right⟩ := sameRun_iff.1 same
    rw [left, right]
  refine ⟨kind, by simp [ofRun?, first], ?_, ?_, ?_⟩
  · simp
  · simp only [String.toList_ofList, List.forall_mem_cons]
    refine ⟨first, fun d later => ?_⟩
    rw [← first, (List.pairwise_cons.1 equal).1 d later]
  · intro notRow
    rw [String.toList_ofList]
    cases others with
    | nil => exact ⟨c, rfl⟩
    | cons d others =>
      obtain ⟨row, inRows, same, -⟩ := sameRun_iff.1 (List.isChain_cons_cons.1 chain).1
      obtain rfl : kind = row := Option.some.inj (first.symm.trans same)
      exact absurd inRows notRow

theorem IsRun.spells (isRun : IsRun token) : Spells token.kind token.text.toList := by
  obtain ⟨kind, text⟩ := token
  have inside : ∀ c ∈ text.toList, (firsts kind).contains c = true :=
    fun c member => (contains_of_kindOf? (isRun.kinds c member)).2
  cases kind with
  | number | charSequence | whitespace => exact ⟨isRun.text_ne, inside⟩
  | literal | arithOp | factorOp =>
    obtain ⟨c, alone⟩ := isRun.single (by simp [rows])
    exact ⟨c, contains_each.1 (inside c (by simp [alone])), alone⟩
  | dice =>
    obtain ⟨c, others, written⟩ := List.exists_cons_of_ne_nil isRun.text_ne
    exact absurd rfl (contains_of_kindOf? (isRun.kinds c (by simp [written]))).1

/-- A run ends where it is maximal. -/
theorem IsRun.stops (isRun : IsRun token) (apart : Apart token.text.toList rest) :
    Stops (extension token.kind) rest := by
  intro c next
  rw [Bool.eq_false_iff]
  intro inside
  obtain ⟨row, inRows, here, same⟩ := kindOf?_of_extension inside
  have last := isRun.kinds _ (List.getLast_mem isRun.text_ne)
  have goesOn : sameRun (token.text.toList.getLast isRun.text_ne) c = true := by
    rw [same (contains_of_kindOf? last).1] at last
    exact sameRun_iff.2 ⟨row, inRows, last, here⟩
  rw [apart _ (List.getLast?_eq_some_getLast isRun.text_ne) c next] at goesOn
  cases goesOn

theorem stops_digits (noDigit : ∀ c ∈ rest.head?, kindOf? c ≠ some .number) :
    Stops digits rest := by
  intro c next
  rw [Bool.eq_false_iff]
  exact fun digit => noDigit c next (kindOf?_eq_some_iff.2 ⟨nofun, digit⟩)

/-- Neither does a run go on in a character that belongs to no run. -/
theorem apart_of_unknown (unknown : ∀ c ∈ rest.head?, kindOf? c = none) : Apart run rest := by
  intro a _ b next
  rw [Bool.eq_false_iff]
  intro same
  obtain ⟨row, -, -, known⟩ := sameRun_iff.1 same
  rw [unknown b next] at known
  cases known

end Runs

section Cutting

variable {tokens : List Token} {rest : List Char}

/-- The tokens are runs, each of which ends where the next one or the rest begins. -/
structure Separate (tokens : List Token) (rest : List Char) : Prop where
  isRun : ∀ token ∈ tokens, IsRun token
  apart : (tokens.map (·.text.toList) ++ [rest]).IsChain Apart
  unknown : ∀ c ∈ rest.head?, kindOf? c = none

/-- What the tokens are runs of. -/
def textOf (tokens : List Token) : List Char :=
  tokens.flatMap (·.text.toList)

theorem Separate.tail {token : Token} (separate : Separate (token :: tokens) rest) :
    Separate tokens rest where
  isRun := (List.forall_mem_cons.1 separate.isRun).2
  apart := separate.apart.tail
  unknown := separate.unknown

theorem Separate.head?_eq (separate : Separate tokens rest) :
    (textOf tokens ++ rest).head? =
      (tokens.map (·.text.toList) ++ [rest]).head?.bind List.head? := by
  cases tokens with
  | nil => rfl
  | cons token tokens =>
    obtain ⟨c, others, written⟩ := List.exists_cons_of_ne_nil
      (separate.isRun token List.mem_cons_self).text_ne
    simp [textOf, written]

theorem Separate.stops {token : Token} (separate : Separate (token :: tokens) rest) :
    Stops (extension token.kind) (textOf tokens ++ rest) := by
  apply (separate.isRun token List.mem_cons_self).stops
  intro a last b next
  rw [separate.tail.head?_eq, Option.mem_def, Option.bind_eq_some_iff] at next
  obtain ⟨text, follows, next⟩ := next
  exact (List.isChain_cons.1 separate.apart).1 text follows a last b next

theorem Separate.leaves {token : Token} (separate : Separate (token :: tokens) rest)
    (alone : ∀ second ∈ tokens.head?, token.text ∈ ["d", "D"] → second.kind ≠ .number) :
    Leaves token.kind token.text.toList (textOf tokens ++ rest) where
  extension := separate.stops
  digit := by
    intro _ c listed isLetter
    have isDie : token.text ∈ ["d", "D"] := by
      rw [← String.ofList_toList (s := token.text), isLetter]
      simp only [List.mem_cons, List.not_mem_nil, or_false] at listed ⊢
      rcases listed with rfl | rfl <;> simp
    apply stops_digits
    intro b next
    cases tokens with
    | nil =>
      rw [separate.unknown b next]
      exact nofun
    | cons second tokens =>
      have isRun := separate.tail.isRun second List.mem_cons_self
      have inside : b ∈ second.text.toList := by
        obtain ⟨d, others, written⟩ := List.exists_cons_of_ne_nil isRun.text_ne
        simp_all [textOf]
      rw [isRun.kinds b inside]
      exact fun number => alone second rfl isDie (Option.some.inj number)

theorem spells_glued {first second : Token} (isDie : first.text ∈ ["d", "D"])
    (isRun : IsRun second) (number : second.kind = .number) :
    Spells .dice (first.text.toList ++ second.text.toList) := by
  have row := isRun.spells
  rw [number] at row
  simp only [List.mem_cons, List.not_mem_nil, or_false] at isDie
  rcases isDie with isDie | isDie
  · rw [isDie]
    exact ⟨'d', by simp, second.text.toList, rfl, row⟩
  · rw [isDie]
    exact ⟨'D', by simp, second.text.toList, rfl, row⟩

/-- The tokenizer takes one run after the other, or a die with the digits behind it. -/
theorem pieces_glue (separate : Separate tokens rest) :
    tokenizer.pieces (textOf tokens ++ rest) =
      (tokenizer.pieces rest).map (glue tokens ++ ·) := by
  induction tokens using glue.induct with
  | case1 =>
    rw [textOf, List.flatMap_nil, List.nil_append]
    cases tokenizer.pieces rest <;> rfl
  | case2 token =>
    have spells := (separate.isRun token List.mem_cons_self).spells
    have cut := pieces_of_spells spells (separate.leaves nofun)
    rw [String.ofList_toList] at cut
    simpa [textOf, glue] using cut
  | case3 first second tokens glued inductionHypothesis =>
    obtain ⟨isDie, number⟩ := glued
    -- the dice go on like the number behind the letter, so they end where it does
    have spells := spells_glued isDie (separate.tail.isRun second List.mem_cons_self) number
    have stops := separate.tail.stops
    rw [number] at stops
    have cut := pieces_of_spells spells ⟨stops, nofun⟩
    rw [inductionHypothesis separate.tail.tail, ← String.toList_append, String.ofList_toList] at cut
    rw [glue, if_pos ⟨isDie, number⟩]
    simp only [textOf, List.flatMap_cons, List.append_assoc, String.toList_append] at cut ⊢
    rw [cut]
    cases tokenizer.pieces rest <;> rfl
  | case4 first second tokens notGlued inductionHypothesis =>
    have spells := (separate.isRun first List.mem_cons_self).spells
    have alone : ∀ next ∈ (second :: tokens).head?,
        first.text ∈ ["d", "D"] → next.kind ≠ .number := by
      rintro _ ⟨⟩ isDie number
      exact notGlued ⟨isDie, number⟩
    have cut := pieces_of_spells spells (separate.leaves alone)
    rw [inductionHypothesis separate.tail, String.ofList_toList] at cut
    rw [glue, if_neg notGlued, textOf, List.flatMap_cons, List.append_assoc]
    refine cut.trans ?_
    cases tokenizer.pieces rest <;> rfl

/-- No rule begins with a character that belongs to no run. -/
theorem pieces_of_unknown {c : Char} (unknown : kindOf? c = none) :
    tokenizer.pieces (c :: rest) = .error ⟨String.ofList (c :: rest)⟩ := by
  have stuck : tokenizer.next? (c :: rest) = none := by
    rw [Option.eq_none_iff_forall_ne_some]
    rintro ⟨kind, more⟩ cut
    obtain ⟨rule, known, -, matched⟩ := Tokenizer.exists_rule_of_next? cut
    obtain ⟨pattern, shape, hasWords⟩ := hasWords_spells rule known
    rw [shape] at matched
    obtain ⟨d, others, written, first⟩ := (hasWords.word_take matched).exists_first
    obtain ⟨rfl, -⟩ := List.cons.inj written
    have isKnown := isKnown_of_contains first
    rw [Dice.isKnown, unknown] at isKnown
    cases isKnown
  rw [Tokenizer.pieces, stuck]

end Cutting

section Blanks

variable {token : Token} {tokens : List Token}

theorem IsRun.filter_text (isRun : IsRun token) :
    token.text.toList.filter (fun c => kindOf? c ≠ some .whitespace) =
      if token.kind = .whitespace then [] else token.text.toList := by
  by_cases blank : token.kind = .whitespace
  · rw [if_pos blank, List.filter_eq_nil_iff]
    intro c member
    simp [isRun.kinds c member, blank]
  · rw [if_neg blank, List.filter_eq_self]
    intro c member
    simp [isRun.kinds c member, blank]

theorem textOf_filter_cons :
    textOf ((token :: tokens).filter (·.kind ≠ .whitespace)) =
      (if token.kind = .whitespace then [] else token.text.toList) ++
        textOf (tokens.filter (·.kind ≠ .whitespace)) := by
  by_cases blank : token.kind = .whitespace
  · simp [textOf, blank]
  · simp [textOf, blank]

theorem filter_textOf_cons (isRun : IsRun token) :
    (textOf (token :: tokens)).filter (fun c => kindOf? c ≠ some .whitespace) =
      (if token.kind = .whitespace then [] else token.text.toList) ++
        (textOf tokens).filter (fun c => kindOf? c ≠ some .whitespace) := by
  rw [textOf, List.flatMap_cons, List.filter_append, isRun.filter_text, textOf]

theorem IsRun.kind_of_die (isRun : IsRun token) (isDie : token.text ∈ ["d", "D"]) :
    token.kind = .charSequence := by
  have kinds := isRun.kinds
  simp only [List.mem_cons, List.not_mem_nil, or_false] at isDie
  rcases isDie with isDie | isDie
  · rw [isDie] at kinds
    exact (Option.some.inj (kinds 'd' (by simp))).symm
  · rw [isDie] at kinds
    exact (Option.some.inj (kinds 'D' (by simp))).symm

/-- Only white space is lost. -/
theorem textOf_filter_glue (isRun : ∀ token ∈ tokens, IsRun token) :
    textOf ((glue tokens).filter (·.kind ≠ .whitespace)) =
      (textOf tokens).filter (fun c => kindOf? c ≠ some .whitespace) := by
  induction tokens using glue.induct with
  | case1 => rfl
  | case2 token =>
    rw [glue, textOf_filter_cons, filter_textOf_cons (isRun token List.mem_cons_self)]
    rfl
  | case3 first second tokens glued inductionHypothesis =>
    simp only [List.forall_mem_cons] at isRun
    obtain ⟨firstRun, secondRun, others⟩ := isRun
    rw [glue, if_pos glued, textOf_filter_cons, inductionHypothesis others,
      filter_textOf_cons firstRun, filter_textOf_cons secondRun, firstRun.kind_of_die glued.1,
      glued.2]
    simp
  | case4 first second tokens notGlued inductionHypothesis =>
    obtain ⟨firstRun, others⟩ := List.forall_mem_cons.1 isRun
    rw [glue, if_neg notGlued, textOf_filter_cons, inductionHypothesis others,
      filter_textOf_cons firstRun]

end Blanks

section Segmentation

variable {text : List Char}

theorem map_filterMap_ofRun? {words : List (List Char)}
    (isRun : ∀ word ∈ words, ∃ kind, ofRun? word = some ⟨kind, String.ofList word⟩) :
    (words.filterMap ofRun?).map (·.text.toList) = words := by
  induction words with
  | nil => rfl
  | cons word words inductionHypothesis =>
    obtain ⟨⟨kind, here⟩, others⟩ := List.forall_mem_cons.1 isRun
    rw [List.filterMap_cons_some here, List.map_cons, inductionHypothesis others,
      String.toList_ofList]

variable (known : ∀ c ∈ text, isKnown c = true)

include known

theorem exists_isRun_of_mem {word : List Char} (member : word ∈ text.splitBy sameRun) :
    ∃ kind, ofRun? word = some ⟨kind, String.ofList word⟩ ∧ IsRun ⟨kind, String.ofList word⟩ := by
  apply exists_isRun
  · exact List.ne_nil_of_mem_splitBy member
  · intro c inside
    apply known
    rw [← List.flatten_splitBy sameRun text]
    exact List.mem_flatten.2 ⟨word, member, inside⟩
  · exact List.isChain_of_mem_splitBy member

theorem map_runs : (runs text).map (·.text.toList) = text.splitBy sameRun := by
  apply map_filterMap_ofRun?
  intro word member
  obtain ⟨kind, here, -⟩ := exists_isRun_of_mem known member
  exact ⟨kind, here⟩

theorem textOf_runs : textOf (runs text) = text := by
  rw [textOf, List.flatMap_def, map_runs known, List.flatten_splitBy]

theorem separate_runs {rest : List Char} (unknown : ∀ c ∈ rest.head?, kindOf? c = none) :
    Separate (runs text) rest where
  isRun := by
    intro token member
    obtain ⟨word, inside, here⟩ := List.mem_filterMap.1 member
    obtain ⟨kind, hereToo, isRun⟩ := exists_isRun_of_mem known inside
    rw [here] at hereToo
    cases hereToo
    exact isRun
  apart := by
    rw [map_runs known, List.isChain_append]
    refine ⟨?_, List.isChain_singleton _, ?_⟩
    · refine (List.isChain_getLast_head_splitBy sameRun text).imp ?_
      rintro word next ⟨word_ne, next_ne, breaks⟩ a last b first
      rw [List.getLast?_eq_some_getLast word_ne] at last
      rw [List.head?_eq_some_head next_ne] at first
      cases last
      cases first
      exact breaks
    · rintro word _ _ ⟨⟩
      exact apart_of_unknown unknown
  unknown := unknown

end Segmentation

theorem ofList_textOf (tokens : List Token) :
    String.ofList (textOf tokens) = String.join (tokens.map (·.text)) := by
  apply String.toList_inj.1
  rw [String.toList_ofList, String.toList_join, List.flatMap_map, textOf]

/-- The characters up to the first one that belongs to no run are cut into runs. -/
theorem pieces_eq (text : List Char) :
    tokenizer.pieces text = (tokenizer.pieces (text.dropWhile isKnown)).map
      (glue (runs (text.takeWhile isKnown)) ++ ·) := by
  have known : ∀ c ∈ text.takeWhile isKnown, isKnown c = true :=
    fun c member => List.mem_takeWhile_imp member
  have unknown : ∀ c ∈ (text.dropWhile isKnown).head?, kindOf? c = none := by
    intro c next
    have stopped := List.head?_dropWhile_not isKnown text
    rw [Option.mem_def] at next
    rw [next] at stopped
    simpa [isKnown] using stopped
  have cut := pieces_glue (separate_runs known unknown)
  rwa [textOf_runs known, List.takeWhile_append_dropWhile] at cut

theorem pieces_dropWhile (text : List Char) :
    tokenizer.pieces (text.dropWhile isKnown) =
      if text.all isKnown then .ok [] else .error ⟨String.ofList (text.dropWhile isKnown)⟩ := by
  have stopped := List.head?_dropWhile_not isKnown text
  by_cases known : text.all isKnown = true
  · rw [if_pos known, List.dropWhile_eq_nil_iff.2 (List.all_eq_true.1 known), Tokenizer.pieces]
  · rw [if_neg known]
    cases left : text.dropWhile isKnown with
    | nil => exact absurd (List.all_eq_true.2 (List.dropWhile_eq_nil_iff.1 left)) known
    | cons c rest =>
      rw [left] at stopped
      exact pieces_of_unknown (by simpa [isKnown] using stopped)

/-- The tokenizer cuts a text into its maximal runs, of which only a `d` by itself goes together
with the digits behind it, and leaves out the white space; it refuses a text from its first
character on that belongs to no run. The texts of the tokens make up the text without its white
space. -/
theorem tokenize_eq_runs (text : String) :
    tokenize text =
      (if text.toList.all isKnown then
        .ok ((glue (runs text.toList)).filter (·.kind ≠ .whitespace))
      else .error ⟨String.ofList (text.toList.dropWhile isKnown)⟩) ∧
    ∀ tokens, tokenize text = .ok tokens →
      String.join (tokens.map (·.text)) =
        String.ofList (text.toList.filter (kindOf? · ≠ some .whitespace)) := by
  rw [tokenize, Tokenizer.tokenize, pieces_eq, pieces_dropWhile]
  by_cases all : text.toList.all isKnown = true
  · have known := List.all_eq_true.1 all
    have separate : Separate (runs text.toList) [] := separate_runs known nofun
    rw [if_pos all, if_pos all, List.takeWhile_eq_self_iff.2 known]
    simp only [Except.map, List.append_nil, true_and]
    rintro tokens ⟨⟩
    rw [← ofList_textOf, textOf_filter_glue separate.isRun, textOf_runs known]
  · rw [if_neg all, if_neg all]
    exact ⟨rfl, nofun⟩

/-- Of letters only a `d` by itself makes dice, and only with digits directly behind it. -/
theorem tokenize_eq_runs_mixed :
    let tokens : List Token := [⟨.charSequence, "xd"⟩, ⟨.number, "6"⟩, ⟨.dice, "d6"⟩, ⟨.dice, "d8"⟩,
      ⟨.charSequence, "dd"⟩, ⟨.number, "6"⟩, ⟨.charSequence, "d"⟩, ⟨.number, "7"⟩]
    tokenize "xd6 d6d8dd6d 7" = .ok tokens ∧
      tokens = (glue (runs "xd6 d6d8dd6d 7".toList)).filter (·.kind ≠ .whitespace) ∧
      String.join (tokens.map (·.text)) = "xd6d6d8dd6d7" := by
  intro tokens
  have cut : tokenize "xd6 d6d8dd6d 7" = .ok tokens := by decide +kernel
  have equation := (tokenize_eq_runs "xd6 d6d8dd6d 7").1
  rw [cut, if_pos (by decide +kernel)] at equation
  exact ⟨cut, Except.ok.inj equation, (tokenize_eq_runs _).2 tokens cut⟩

end DiceCalculator.Dice
