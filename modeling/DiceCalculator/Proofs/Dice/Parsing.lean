import DiceCalculator.Proofs.Dice.Reading

/-!
# Parsing dice expressions

Matching against the grammar of dice expressions finds the longest word of the
language before a place, and the one derivation that it has. Completeness is by
induction on the derivation: each is covered by the answer where it ends. Since
only the first part of a sequence may be matched longer than it is derived, the
later ones are matched exactly, and the alternatives before the right one take
even more or do not match.
-/

namespace DiceCalculator.Dice

open Grammar Matcher

/-- What is found ends with the tokens, no word of the language that does so is longer, and it has
no other derivation. -/
structure Longest (X : Nonterminal) (ts : List Token) (found : Match Action) : Prop where
  nonempty : found.tree.tokens ≠ []
  tokens_eq : found.tree.tokens = ts.drop found.start
  derives : Derives X found.tree
  unique : ∀ tree, Derives X tree → tree.tokens = found.tree.tokens → tree = found.tree
  longest : ∀ word, word <:+ ts → word ∈ X.language → word.length ≤ found.tree.tokens.length

namespace Reading

variable {ts : List Token} {answers : Attempt → Option (Match Action)} {X : Nonterminal}
  {tree : Tree Action} {token : Token} {found : Match Action} {start middle stop : Nat}

theorem answers_path_eq_none (reading : Reading ts answers) (single : Occurs ts [token] start stop)
    (other : token.kind ≠ .charSequence) : answers ⟨Place.dotOperation, stop⟩ = none := by
  by_contra some
  obtain ⟨found, answered⟩ := Option.ne_none_iff_exists'.1 some
  obtain ⟨path, occurs⟩ := reading.derives (X := .dotOperation) single.within answered
  obtain ⟨earlier, last, same, kind⟩ := path.exists_last_path
  rw [same] at occurs
  obtain ⟨_, -, lastOccurs⟩ := occurs.split
  rw [lastOccurs.single_unique single] at kind
  exact other kind

theorem covers_word (reading : Reading ts answers) (occurs : Occurs ts [token] start stop)
    (kind : token.kind = .charSequence) :
    Covers (answers ⟨Place.dotOperation, stop⟩) start (.leaf .name token) := by
  have length : start + 1 = stop := occurs.length_eq
  rw [reading.answers_eq rfl]
  apply covers_later
  · intro found chosen
    have longer : found.start + 3 ≤ stop := length_le_of_sequence chosen
    omega
  · exact covers_first (covers_of_eq (choose_terminal occurs kind))

theorem covers_reference (reading : Reading ts answers) {path : Tree Action}
    (derivation : Derives .dotOperation path) (occurs : Occurs ts path.tokens start stop)
    (covers : Covers (answers ⟨Place.dotOperation, stop⟩) start path) :
    Covers (answers ⟨Place.atom, stop⟩) start (.branch .same [path]) := by
  have less := occurs.start_lt derivation.tokens_ne_nil
  obtain ⟨earlier, last, same, kind⟩ := derivation.exists_last_path
  rw [same] at occurs
  obtain ⟨_, -, single⟩ := occurs.split
  rw [reading.answers_eq rfl]
  apply covers_after_none (choose_terminal_eq_none single (by simp [kind]))
  apply covers_after_none (choose_terminal_eq_none single (by simp [kind]))
  exact covers_first (covers_sequence rfl covers less)

/-- Behind a right parenthesis there is neither a number nor a path. -/
theorem covers_nested (reading : Reading ts answers) {inner : Tree Action} {left right : Token}
    {place : Nat} (derivation : Derives .arithExpr inner)
    (covers : Covers (answers ⟨Place.arithExpr, middle⟩) place inner)
    (first : Occurs ts [left] start place) (second : Occurs ts inner.tokens place middle)
    (third : Occurs ts [right] middle stop) (opens : left.text = "(") (closes : right.text = ")") :
    Covers (answers ⟨Place.atom, stop⟩) start
      (.branch .same [.literal left, inner, .literal right]) := by
  have literal : right.kind = .literal := by
    apply (reading.lexical_single third).punctuation
    simp [closes]
  have noPath := reading.answers_path_eq_none third (by simp [literal])
  have innerAnswered := reading.exact_nested covers derivation first second opens
  have leftAnswered : answers ⟨Place.leftParen, place⟩ = _ := reading.answers_mark rfl first opens
  have rightAnswered : answers ⟨Place.rightParen, stop⟩ = _ := reading.answers_mark rfl third closes
  have innerLess := second.start_lt derivation.tokens_ne_nil
  rw [reading.answers_eq rfl]
  apply covers_after_none (choose_terminal_eq_none third (by simp [literal]))
  apply covers_after_none (choose_terminal_eq_none third (by simp [literal]))
  apply covers_after_none (sequence_eq_none rfl noPath)
  apply covers_first
  exact covers_three rightAnswered third.single_lt innerAnswered innerLess
    (covers_of_eq leftAnswered) first.single_lt

/-- If an expression ends before the minus sign, the sign takes it in. -/
theorem covers_negate (reading : Reading ts answers) {term : Tree Action} {minus : Token}
    (derivation : Derives .term term)
    (covers : Covers (answers ⟨Place.term, stop⟩) middle term)
    (first : Occurs ts [minus] start middle) (second : Occurs ts term.tokens middle stop)
    (text : minus.text = "-") :
    Covers (answers ⟨Place.arithExpr, stop⟩) start (.branch .negate [.literal minus, term]) := by
  have kind := (reading.lexical_single first).minus text
  have less := second.start_lt derivation.tokens_ne_nil
  have termAnswered :=
    reading.exact_term covers derivation first second (by simp [text]) (by simp [kind])
  have minusAnswered : answers ⟨Place.minus, middle⟩ = _ := reading.answers_mark rfl first text
  have signAnswered : answers ⟨Place.plusMinusOp, middle⟩ = _ :=
    reading.answers_terminal rfl first kind
  rw [reading.answers_eq rfl]
  apply covers_later
  -- The minus sign is also the sign of a sum, whose first operand would stand before it.
  · exact fun _ => start_lt_of_two rfl termAnswered less signAnswered first.single_lt
  · refine covers_first (covers_sequence ?_ (covers_of_eq minusAnswered) first.single_lt)
    exact chooseParts_cons termAnswered less

/-- A term in front of a term does not end with a sign. -/
theorem covers_rounds (reading : Reading ts answers) {count term : Tree Action}
    (countDerives : Derives .term count) (derivation : Derives .term term)
    (countCovers : Covers (answers ⟨Place.term, middle⟩) start count)
    (termCovers : Covers (answers ⟨Place.term, stop⟩) middle term)
    (first : Occurs ts count.tokens start middle) (second : Occurs ts term.tokens middle stop) :
    Covers (answers ⟨Place.arithExpr, stop⟩) start (.branch .rounds [count, term]) := by
  have less := second.start_lt derivation.tokens_ne_nil
  have firstLess := first.start_lt countDerives.tokens_ne_nil
  have lexical : ∀ token ∈ count.tokens, Lexical token :=
    fun token member => reading.lexical token (first.mem member)
  -- The last token of the count is the one in front of the term.
  obtain ⟨-, earlier, last, same, sign, factor, dot⟩ := countDerives.firmEnds_term lexical
  have lexicalLast := lexical last (by simp [same])
  rw [same] at first
  obtain ⟨_, -, single⟩ := first.split
  have termAnswered := reading.exact_term termCovers derivation single second dot factor
  have noSign : answers ⟨Place.plusMinusOp, middle⟩ = none :=
    reading.answers_terminal_eq_none rfl single sign
  have noMinus : answers ⟨Place.minus, middle⟩ = none :=
    reading.answers_mark_eq_none rfl single fun text => sign (lexicalLast.minus text)
  rw [reading.answers_eq rfl]
  apply covers_after_none (sequence_eq_none_of_second rfl termAnswered less noSign)
  apply covers_after_none (sequence_eq_none_of_second rfl termAnswered less noMinus)
  refine covers_first (covers_sequence ?_ countCovers firstLess)
  exact chooseParts_cons termAnswered less

theorem covers_three (reading : Reading ts answers) {id part other last : RuleId}
    {ruleName : RuleName} {action : Action} {rest : List (Alternative Action)}
    {first third : Tree Action} {place : Nat}
    (known : grammar.rule? id = some ⟨ruleName, .sequence [part, other, last] action :: rest⟩)
    (covers : Covers (answers ⟨part, place⟩) start first) (firstLess : start < place)
    (answered : answers ⟨other, middle⟩ = some ⟨place, tree⟩) (less : place < middle)
    (lastAnswered : answers ⟨last, stop⟩ = some ⟨middle, third⟩) (lastLess : middle < stop) :
    Covers (answers ⟨id, stop⟩) start (.branch action [first, tree, third]) := by
  rw [reading.answers_eq known]
  exact covers_first
    (Matcher.covers_three lastAnswered lastLess answered less covers firstLess)

/-- Completeness: each derivation that ends at a place is covered by the answer there. -/
theorem covers (reading : Reading ts answers) (derivation : Derives X tree)
    (occurs : Occurs ts tree.tokens start stop) :
    Covers (answers ⟨X.place, stop⟩) start tree := by
  have whole := occurs.start_lt derivation.tokens_ne_nil
  -- The induction gives that the parts are covered. For the first part of a sequence this is
  -- enough; each later one is exact, because of the token in front of it.
  induction derivation generalizing start stop with
  | plusMinusOp kind | multDivOp kind | name kind =>
    exact covers_of_eq (reading.answers_terminal rfl occurs kind)
  | word kind => exact reading.covers_word occurs kind
  | dotted owner text part ownerCovers _ =>
    obtain ⟨place, middle, first, second, third⟩ := occurs.split_three
    have firstLess := first.start_lt owner.tokens_ne_nil
    cases part with
    | name kind =>
      have dotAnswered : answers ⟨Place.dot, _⟩ = _ := reading.answers_mark rfl second text
      have partAnswered : answers ⟨Place.name, _⟩ = _ := reading.answers_terminal rfl third kind
      exact reading.covers_three rfl (ownerCovers first firstLess) firstLess dotAnswered
        second.single_lt partAnswered third.single_lt
  | number kind =>
    rw [reading.answers_eq rfl]
    exact covers_first (covers_of_eq (choose_terminal occurs kind))
  | die kind =>
    rw [reading.answers_eq rfl]
    apply covers_after_none (choose_terminal_eq_none occurs (by simp [kind]))
    exact covers_first (covers_of_eq (choose_terminal occurs kind))
  | reference path pathCovers =>
    rw [Tree.tokens_one] at occurs
    exact reading.covers_reference path occurs (pathCovers occurs whole)
  | nested opens inner closes innerCovers =>
    obtain ⟨place, middle, first, second, third⟩ := occurs.split_three
    have innerLess := second.start_lt inner.tokens_ne_nil
    exact reading.covers_nested inner (innerCovers second innerLess) first second third opens closes
  | scale term sign atom termCovers _ atomCovers =>
    obtain ⟨place, middle, first, second, third⟩ := occurs.split_three
    have firstLess := first.start_lt term.tokens_ne_nil
    have atomLess := third.start_lt atom.tokens_ne_nil
    cases sign with
    | multDivOp kind =>
      have dot := reading.text_ne_dot second (by simp [kind])
      have signAnswered : answers ⟨Place.multDivOp, _⟩ = _ :=
        reading.answers_terminal rfl second kind
      have atomAnswered := reading.exact_atom (atomCovers third atomLess) atom second third dot
      exact reading.covers_three rfl (termCovers first firstLess) firstLess signAnswered
        second.single_lt atomAnswered atomLess
  | combine sum sign term sumCovers _ termCovers =>
    obtain ⟨place, middle, first, second, third⟩ := occurs.split_three
    have firstLess := first.start_lt sum.tokens_ne_nil
    have termLess := third.start_lt term.tokens_ne_nil
    cases sign with
    | plusMinusOp kind =>
      have dot := reading.text_ne_dot second (by simp [kind])
      have signAnswered : answers ⟨Place.plusMinusOp, _⟩ = _ :=
        reading.answers_terminal rfl second kind
      have termAnswered :=
        reading.exact_term (termCovers third termLess) term second third dot (by simp [kind])
      exact reading.covers_three rfl (sumCovers first firstLess) firstLess signAnswered
        second.single_lt termAnswered termLess
  | negate text term termCovers =>
    rw [Tree.tokens_two] at occurs
    obtain ⟨middle, first, second⟩ := occurs.split
    have termLess := second.start_lt term.tokens_ne_nil
    exact reading.covers_negate term (termCovers second termLess) first second text
  | rounds count term countCovers termCovers =>
    rw [Tree.tokens_two] at occurs
    obtain ⟨middle, first, second⟩ := occurs.split
    have countLess := first.start_lt count.tokens_ne_nil
    have termLess := second.start_lt term.tokens_ne_nil
    exact reading.covers_rounds count term (countCovers first countLess)
      (termCovers second termLess) first second
  | assign path text value pathCovers valueCovers =>
    obtain ⟨place, middle, first, second, third⟩ := occurs.split_three
    have firstLess := first.start_lt path.tokens_ne_nil
    have valueLess := third.start_lt value.tokens_ne_nil
    have equalsAnswered : answers ⟨Place.equals, _⟩ = _ := reading.answers_mark rfl second text
    have valueAnswered := reading.exact_of_barred (valueCovers third valueLess) second third
      (by simp [text, Nonterminal.barred])
    exact reading.covers_three rfl (pathCovers first firstLess) firstLess equalsAnswered
      second.single_lt valueAnswered valueLess
  | list front text last frontCovers lastCovers =>
    obtain ⟨place, middle, first, second, third⟩ := occurs.split_three
    have firstLess := first.start_lt front.tokens_ne_nil
    have lastLess := third.start_lt last.tokens_ne_nil
    have commaAnswered : answers ⟨Place.comma, _⟩ = _ := reading.answers_mark rfl second text
    have lastAnswered := reading.exact_of_barred (lastCovers third lastLess) second third
      (by simp [text, Nonterminal.barred])
    exact reading.covers_three rfl (frontCovers first firstLess) firstLess commaAnswered
      second.single_lt lastAnswered lastLess
  | operand _ covered | single _ covered | value _ covered | only _ covered =>
    rw [Tree.tokens_one] at occurs
    rw [reading.answers_eq rfl]
    exact covers_alone rfl (by simp) (covered occurs whole) whole

theorem derives_suffix (reading : Reading ts answers)
    (answered : answers ⟨X.place, ts.length⟩ = some found) :
    Derives X found.tree ∧ found.tree.tokens = ts.drop found.start ∧ found.tree.tokens <:+ ts := by
  obtain ⟨derivation, occurs⟩ := reading.derives le_rfl answered
  exact ⟨derivation, occurs.suffix, occurs.suffix ▸ List.drop_suffix ..⟩

theorem exists_longest (reading : Reading ts answers) (derivation : Derives X tree)
    (suffix : tree.tokens <:+ ts) :
    ∃ found, answers ⟨X.place, ts.length⟩ = some found ∧
      tree.tokens.length ≤ found.tree.tokens.length ∧
      (tree.tokens = found.tree.tokens → tree = found.tree) := by
  have occurs := Occurs.of_suffix suffix
  obtain ⟨found, answered, enough⟩ := reading.covers derivation occurs
  obtain ⟨-, foundOccurs⟩ := reading.derives le_rfl answered
  have length := occurs.length_eq
  have foundLength := foundOccurs.length_eq
  refine ⟨found, answered, ?_⟩
  rcases enough with further | rfl
  -- What begins earlier and ends at the same place is longer, so it is another word.
  · refine ⟨by omega, ?_⟩
    intro same
    rw [same] at further
    omega
  · exact ⟨le_rfl, fun _ => rfl⟩

theorem answers_eq_none_iff (reading : Reading ts answers) :
    answers ⟨X.place, ts.length⟩ = none ↔
      ∀ word, word <:+ ts → word ≠ [] → word ∉ X.language := by
  constructor
  · rintro failed _ suffix _ ⟨tree, derivation, rfl⟩
    obtain ⟨found, answered, -⟩ := reading.exists_longest derivation suffix
    exact Option.some_ne_none found (answered.symm.trans failed)
  · intro nowhere
    by_contra some
    obtain ⟨found, answered⟩ := Option.ne_none_iff_exists'.1 some
    obtain ⟨derivation, -, suffix⟩ := reading.derives_suffix answered
    exact nowhere _ suffix derivation.tokens_ne_nil ⟨found.tree, derivation, rfl⟩

theorem exists_whole_iff (reading : Reading ts answers) :
    (∃ found, answers ⟨X.place, ts.length⟩ = some found ∧ found.tree.tokens = ts) ↔
      ts ∈ X.language := by
  constructor
  · rintro ⟨found, answered, whole⟩
    obtain ⟨derivation, -⟩ := reading.derives_suffix answered
    exact ⟨found.tree, derivation, whole⟩
  · rintro ⟨tree, derivation, whole⟩
    obtain ⟨found, answered, longest, -⟩ :=
      reading.exists_longest derivation (whole ▸ List.suffix_rfl)
    obtain ⟨-, -, suffix⟩ := reading.derives_suffix answered
    rw [whole] at longest
    exact ⟨found, answered, suffix.eq_of_length_le longest⟩

theorem longest (reading : Reading ts answers)
    (answered : answers ⟨X.place, ts.length⟩ = some found) : Longest X ts found := by
  obtain ⟨derivation, tokens_eq, -⟩ := reading.derives_suffix answered
  have covers {tree : Tree Action} (other : Derives X tree) (suffix : tree.tokens <:+ ts) :
      tree.tokens.length ≤ found.tree.tokens.length ∧
        (tree.tokens = found.tree.tokens → tree = found.tree) := by
    obtain ⟨found', answered', covered⟩ := reading.exists_longest other suffix
    cases answered.symm.trans answered'
    exact covered
  refine ⟨derivation.tokens_ne_nil, tokens_eq, derivation, ?_, ?_⟩
  · intro tree other same
    have suffix : tree.tokens <:+ ts := same ▸ tokens_eq ▸ List.drop_suffix ..
    exact (covers other suffix).2 same
  · rintro _ suffix ⟨tree, other, rfl⟩
    exact (covers other suffix).1

end Reading

theorem exists_reading_of_lexical {ts : List Token} (lexical : ∀ token ∈ ts, Lexical token) :
    ∃ answers, Reading ts answers ∧
      ∀ X : Nonterminal, (grammar.matchRule X.place ts).found = answers ⟨X.place, ts.length⟩ := by
  obtain ⟨answers, plain⟩ := exists_plain grammar_acyclic ts
  refine ⟨answers, ⟨plain, lexical⟩, ?_⟩
  intro X
  exact found_matchRule (answer?_eq_plain grammar_acyclic plain true le_rfl)

theorem exists_reading {text : String} {ts : List Token} (cut : tokenize text = .ok ts) :
    ∃ answers, Reading ts answers ∧
      ∀ X : Nonterminal, (grammar.matchRule X.place ts).found = answers ⟨X.place, ts.length⟩ :=
  exists_reading_of_lexical (lexical_of_mem cut)

/-- What matching finds ends with the tokens and derives from the name. -/
theorem derives_of_found {X : Nonterminal} {ts : List Token} {found : Match Action}
    (lexical : ∀ token ∈ ts, Lexical token)
    (matched : (grammar.matchRule X.place ts).found = some found) :
    Derives X found.tree ∧ found.tree.tokens <:+ ts := by
  obtain ⟨answers, reading, found_eq⟩ := exists_reading_of_lexical lexical
  obtain ⟨derivation, -, suffix⟩ := reading.derives_suffix ((found_eq X).symm.trans matched)
  exact ⟨derivation, suffix⟩

/-- The derivation of all tokens is what matching finds. -/
theorem found_of_derives {X : Nonterminal} {tree : Tree Action} (derivation : Derives X tree)
    (lexical : ∀ token ∈ tree.tokens, Lexical token) :
    (grammar.matchRule X.place tree.tokens).found = some ⟨0, tree⟩ := by
  obtain ⟨answers, reading, found_eq⟩ := exists_reading_of_lexical lexical
  obtain ⟨found, answered, longest, unique⟩ :=
    reading.exists_longest derivation List.suffix_rfl
  obtain ⟨-, occurs⟩ := reading.derives le_rfl answered
  have length_eq := occurs.length_eq
  have same : found = ⟨0, tree⟩ := by
    obtain ⟨-, -, suffix⟩ := reading.derives_suffix answered
    have start_eq : found.start = 0 := by omega
    rw [unique (suffix.eq_of_length_le longest).symm, ← start_eq]
  rw [found_eq, answered, same]

theorem parse_of_derives {tree : Tree Action} (derivation : Derives .expr tree)
    (lexical : ∀ token ∈ tree.tokens, Lexical token) :
    (grammar.parse tree.tokens).found = some ⟨0, tree⟩ :=
  found_of_derives derivation lexical

/-- Matching finds nothing exactly where no word of the language ends. Otherwise it finds the
longest such word and the only way in which it derives. All of the tokens are parsed exactly if
they are an expression. -/
theorem matchRule_longest {text : String} {ts : List Token} (cut : tokenize text = .ok ts)
    (X : Nonterminal) :
    ((grammar.matchRule X.place ts).found = none ↔
      ∀ word, word <:+ ts → word ≠ [] → word ∉ X.language) ∧
    (∀ found, (grammar.matchRule X.place ts).found = some found → Longest X ts found) ∧
    ((∃ found, (grammar.parse ts).found = some found ∧ found.tree.tokens = ts) ↔
      ts ∈ Nonterminal.expr.language) := by
  obtain ⟨answers, reading, found_eq⟩ := exists_reading cut
  have parse_eq : (grammar.parse ts).found = answers ⟨Nonterminal.expr.place, ts.length⟩ :=
    found_eq .expr
  rw [found_eq, parse_eq]
  exact ⟨reading.answers_eq_none_iff, fun _ => reading.longest, reading.exists_whole_iff⟩

/-- The equals sign has no path in front of it, so what follows it is the assignment. -/
theorem matchRule_longest_pathless :
    let ts : List Token := [⟨.literal, "="⟩, ⟨.number, "3"⟩, ⟨.literal, "("⟩, ⟨.dice, "d6"⟩,
      ⟨.arithOp, "-"⟩, ⟨.number, "1"⟩, ⟨.literal, ")"⟩]
    tokenize "= 3 (d6 - 1)" = .ok ts ∧
    ((grammar.matchRule Place.assignment ts).found = none ↔
      ∀ word, word <:+ ts → word ≠ [] → word ∉ Nonterminal.assignment.language) ∧
    (∀ found, (grammar.matchRule Place.assignment ts).found = some found →
      Longest .assignment ts found) ∧
    ((∃ found, (grammar.parse ts).found = some found ∧ found.tree.tokens = ts) ↔
      ts ∈ Nonterminal.expr.language) := by
  intro ts
  have cut : tokenize "= 3 (d6 - 1)" = .ok ts := by decide +kernel
  exact ⟨cut, matchRule_longest cut .assignment⟩

end DiceCalculator.Dice
