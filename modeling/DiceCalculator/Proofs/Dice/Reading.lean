import DiceCalculator.Proofs.Dice.Operands
import DiceCalculator.Proofs.Dice.Soundness
import DiceCalculator.Proofs.Matching.Covering

/-!
# Answers on dice expressions

An answer that covers a derivation may take more tokens than the derivation has.
But where a token stands that cannot be within a longer word, the answer is the
derivation itself: no longer atom has anything but a dot there, no longer term
anything but a dot or a factor sign, and no word at all a left parenthesis.
-/

namespace DiceCalculator.Dice

open Grammar Matcher

/-- The answers of ordered choice on tokens of dice expressions. -/
structure Reading (ts : List Token) (answers : Attempt → Option (Match Action)) : Prop where
  plain : grammar.Plain ts answers
  lexical : ∀ token ∈ ts, Lexical token

namespace Reading

variable {ts : List Token} {answers : Attempt → Option (Match Action)} {X : Nonterminal}
  {tree : Tree Action} {token : Token} {found : Match Action} {start middle stop : Nat}

theorem derives (reading : Reading ts answers) (within : stop ≤ ts.length)
    (answered : answers ⟨X.place, stop⟩ = some found) :
    Derives X found.tree ∧ Occurs ts found.tree.tokens found.start stop := by
  have justified := reading.plain.justified grammar_acyclic within answered
  refine ⟨(reads_of_justified justified).derives X rfl, ?_⟩
  exact ⟨justified.start_le, within, justified.tokens_eq.symm⟩

theorem answers_eq (reading : Reading ts answers) {id : RuleId} {rule : Rule Action}
    (known : grammar.rule? id = some rule) (stop : Nat) :
    answers ⟨id, stop⟩ = chooseFirst answers ts stop rule.alternatives :=
  reading.plain.eq_chooseFirst known stop

theorem answers_single (reading : Reading ts answers) {id : RuleId} {ruleName : RuleName}
    {alternative : Alternative Action}
    (known : grammar.rule? id = some ⟨ruleName, [alternative]⟩) (stop : Nat) :
    answers ⟨id, stop⟩ = chooseAlternative answers ts stop alternative := by
  rw [reading.answers_eq known, chooseFirst, List.findSome?_singleton]

theorem answers_mark (reading : Reading ts answers) {id : RuleId} {text : String}
    (known : grammar.rule? id = some ⟨.literal text, [.literal text]⟩)
    (occurs : Occurs ts [token] start stop) (written : token.text = text) :
    answers ⟨id, stop⟩ = some ⟨start, .literal token⟩ :=
  (reading.answers_single known stop).trans (choose_literal occurs written)

theorem answers_mark_eq_none (reading : Reading ts answers) {id : RuleId} {text : String}
    (known : grammar.rule? id = some ⟨.literal text, [.literal text]⟩)
    (occurs : Occurs ts [token] start stop) (other : token.text ≠ text) :
    answers ⟨id, stop⟩ = none :=
  (reading.answers_single known stop).trans (choose_literal_eq_none occurs other)

theorem answers_terminal (reading : Reading ts answers) {id : RuleId} {ruleName : RuleName}
    {kind : Token.Kind} {action : Action}
    (known : grammar.rule? id = some ⟨ruleName, [.terminal kind action]⟩)
    (occurs : Occurs ts [token] start stop) (fits : token.kind = kind) :
    answers ⟨id, stop⟩ = some ⟨start, .leaf action token⟩ :=
  (reading.answers_single known stop).trans (choose_terminal occurs fits)

theorem answers_terminal_eq_none (reading : Reading ts answers) {id : RuleId} {ruleName : RuleName}
    {kind : Token.Kind} {action : Action}
    (known : grammar.rule? id = some ⟨ruleName, [.terminal kind action]⟩)
    (occurs : Occurs ts [token] start stop) (other : token.kind ≠ kind) :
    answers ⟨id, stop⟩ = none :=
  (reading.answers_single known stop).trans (choose_terminal_eq_none occurs other)

theorem lexical_single (reading : Reading ts answers) (single : Occurs ts [token] start stop) :
    Lexical token :=
  reading.lexical token (single.mem (List.mem_singleton_self token))

/-- An answer that covers the derivation is the derivation, if no word of the name has the token in
front of it too. -/
theorem exact (reading : Reading ts answers) (covers : Covers (answers ⟨X.place, stop⟩) start tree)
    {before : Nat} (single : Occurs ts [token] before start)
    (occurs : Occurs ts tree.tokens start stop)
    (apart : ∀ longer earlier, Derives X longer → (∀ token ∈ longer.tokens, Lexical token) →
      longer.tokens ≠ earlier ++ token :: tree.tokens) :
    answers ⟨X.place, stop⟩ = some ⟨start, tree⟩ := by
  obtain ⟨found, answered, further | rfl⟩ := covers
  · obtain ⟨derivation, long⟩ := reading.derives occurs.within answered
    obtain ⟨earlier, same⟩ := long.exists_eq_append single occurs further
    exact absurd same (apart _ _ derivation fun _ member => reading.lexical _ (long.mem member))
  · exact answered

theorem text_ne_dot (reading : Reading ts answers) (single : Occurs ts [token] start stop)
    (other : token.kind ≠ .literal) : token.text ≠ "." :=
  (reading.lexical_single single).text_ne other (by simp)

theorem exact_atom (reading : Reading ts answers)
    (covers : Covers (answers ⟨Place.atom, stop⟩) start tree) (derivation : Derives .atom tree)
    {before : Nat} (single : Occurs ts [token] before start)
    (occurs : Occurs ts tree.tokens start stop) (dot : token.text ≠ ".") :
    answers ⟨Place.atom, stop⟩ = some ⟨start, tree⟩ := by
  refine reading.exact (X := .atom) covers single occurs ?_
  intro longer earlier long lexical same
  exact dot (long.dot_of_atom_append derivation lexical same)

theorem exact_term (reading : Reading ts answers)
    (covers : Covers (answers ⟨Place.term, stop⟩) start tree) (derivation : Derives .term tree)
    {before : Nat} (single : Occurs ts [token] before start)
    (occurs : Occurs ts tree.tokens start stop) (dot : token.text ≠ ".")
    (factor : token.kind ≠ .factorOp) :
    answers ⟨Place.term, stop⟩ = some ⟨start, tree⟩ := by
  refine reading.exact (X := .term) covers single occurs ?_
  intro longer earlier long lexical same
  exact (long.dot_or_factor_of_term_append derivation lexical same).elim dot factor

theorem exact_nested (reading : Reading ts answers)
    (covers : Covers (answers ⟨Place.arithExpr, stop⟩) start tree)
    (derivation : Derives .arithExpr tree) {before : Nat}
    (single : Occurs ts [token] before start) (occurs : Occurs ts tree.tokens start stop)
    (opens : token.text = "(") : answers ⟨Place.arithExpr, stop⟩ = some ⟨start, tree⟩ := by
  refine reading.exact (X := .arithExpr) covers single occurs ?_
  intro longer earlier long lexical same
  exact long.text_ne_of_append derivation lexical same opens

theorem exact_of_barred (reading : Reading ts answers)
    (covers : Covers (answers ⟨X.place, stop⟩) start tree) {before : Nat}
    (single : Occurs ts [token] before start) (occurs : Occurs ts tree.tokens start stop)
    (barred : token.text ∈ X.barred) : answers ⟨X.place, stop⟩ = some ⟨start, tree⟩ := by
  refine reading.exact covers single occurs ?_
  intro longer earlier long lexical same
  have member : token ∈ longer.tokens := by simp [same]
  exact long.text_notMem_barred member (lexical token member) barred

end Reading

end DiceCalculator.Dice
