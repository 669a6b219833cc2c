import DiceCalculator.Proofs.Dice.Language
import DiceCalculator.Proofs.Matching.Derivation

/-!
# Justified trees are derivations

The rules of the grammar are the productions of the language. So a tree that is
justified by a rule, with whatever order of preference it was found, derives
from the name of the rule.
-/

namespace DiceCalculator.Dice

open Grammar

/-- What the trees of a rule are: derivations from its name, or its punctuation. -/
structure Reads (id : RuleId) (tree : Tree Action) : Prop where
  derives (X : Nonterminal) : X.place = id → Derives X tree
  mark (text : String) : grammar.rule? id = some ⟨.literal text, [.literal text]⟩ →
    ∃ token, tree = .literal token ∧ token.text = text

theorem derives_of_builds {X : Nonterminal} {rule : Rule Action} {alternative : Alternative Action}
    {tree : Tree Action} (known : grammar.rule? X.place = some rule)
    (member : alternative ∈ rule.alternatives) (builds : Builds Reads alternative tree) :
    Derives X tree := by
  cases X <;> cases known <;>
    simp only [List.mem_cons, List.not_mem_nil, or_false] at member
  case plusMinusOp =>
    cases member
    cases builds with
    | terminal fits => exact .plusMinusOp fits
  case multDivOp =>
    cases member
    cases builds with
    | terminal fits => exact .multDivOp fits
  case dotOperation =>
    rcases member with rfl | rfl
    · rcases builds with _ | _ | (_ | ⟨owner, _ | ⟨dot, _ | ⟨part, _ | _⟩⟩⟩)
      obtain ⟨token, rfl, text⟩ := dot.mark "." rfl
      exact .dotted (owner.derives .dotOperation rfl) text (part.derives .name rfl)
    · cases builds with
      | terminal fits => exact .word fits
  case name =>
    cases member
    cases builds with
    | terminal fits => exact .name fits
  case atom =>
    rcases member with rfl | rfl | rfl | rfl
    · cases builds with
      | terminal fits => exact .number fits
    · cases builds with
      | terminal fits => exact .die fits
    · rcases builds with _ | _ | (_ | ⟨path, _ | _⟩)
      exact .reference (path.derives .dotOperation rfl)
    · rcases builds with _ | _ | (_ | ⟨left, _ | ⟨inner, _ | ⟨right, _ | _⟩⟩⟩)
      obtain ⟨opening, rfl, opens⟩ := left.mark "(" rfl
      obtain ⟨closing, rfl, closes⟩ := right.mark ")" rfl
      exact .nested opens (inner.derives .arithExpr rfl) closes
  case term =>
    rcases member with rfl | rfl
    · rcases builds with _ | _ | (_ | ⟨term, _ | ⟨sign, _ | ⟨atom, _ | _⟩⟩⟩)
      exact .scale (term.derives .term rfl) (sign.derives .multDivOp rfl) (atom.derives .atom rfl)
    · rcases builds with _ | _ | (_ | ⟨atom, _ | _⟩)
      exact .operand (atom.derives .atom rfl)
  case arithExpr =>
    rcases member with rfl | rfl | rfl | rfl
    · rcases builds with _ | _ | (_ | ⟨sum, _ | ⟨sign, _ | ⟨term, _ | _⟩⟩⟩)
      exact .combine (sum.derives .arithExpr rfl) (sign.derives .plusMinusOp rfl)
        (term.derives .term rfl)
    · rcases builds with _ | _ | (_ | ⟨minus, _ | ⟨term, _ | _⟩⟩)
      obtain ⟨token, rfl, text⟩ := minus.mark "-" rfl
      exact .negate text (term.derives .term rfl)
    · rcases builds with _ | _ | (_ | ⟨count, _ | ⟨term, _ | _⟩⟩)
      exact .rounds (count.derives .term rfl) (term.derives .term rfl)
    · rcases builds with _ | _ | (_ | ⟨term, _ | _⟩)
      exact .single (term.derives .term rfl)
  case assignment =>
    rcases member with rfl | rfl
    · rcases builds with _ | _ | (_ | ⟨path, _ | ⟨equals, _ | ⟨value, _ | _⟩⟩⟩)
      obtain ⟨token, rfl, text⟩ := equals.mark "=" rfl
      exact .assign (path.derives .dotOperation rfl) text (value.derives .arithExpr rfl)
    · rcases builds with _ | _ | (_ | ⟨value, _ | _⟩)
      exact .value (value.derives .arithExpr rfl)
  case expr =>
    rcases member with rfl | rfl
    · rcases builds with _ | _ | (_ | ⟨front, _ | ⟨comma, _ | ⟨last, _ | _⟩⟩⟩)
      obtain ⟨token, rfl, text⟩ := comma.mark "," rfl
      exact .list (front.derives .expr rfl) text (last.derives .assignment rfl)
    · rcases builds with _ | _ | (_ | ⟨last, _ | _⟩)
      exact .only (last.derives .assignment rfl)

theorem reads_of_justified {ts : List Token} {id : RuleId} {start stop : Nat} {tree : Tree Action}
    (justified : grammar.Justified ts id start stop tree) : Reads id tree := by
  refine justified.of_closed fun id rule alternative tree known member builds => ⟨?_, ?_⟩
  · rintro X rfl
    exact derives_of_builds known member builds
  · intro text mark
    cases known.symm.trans mark
    cases List.mem_singleton.1 member
    cases builds with
    | literal fits => exact ⟨_, rfl, fits⟩

/-- Each rule is that of a name or that of a piece of punctuation. -/
theorem place_or_mark {id : RuleId} {rule : Rule Action} (known : grammar.rule? id = some rule) :
    (∃ X : Nonterminal, X.place = id) ∨
      ∃ text, grammar.rule? id = some ⟨.literal text, [.literal text]⟩ := by
  have each : ∀ index < grammar.rules.length,
      (∃ X ∈ [Nonterminal.plusMinusOp, .multDivOp, .dotOperation, .name, .atom, .term, .arithExpr,
        .assignment, .expr], X.place = ⟨index⟩) ∨
      ∃ text ∈ [".", "=", ",", "-", "(", ")"],
        grammar.rule? ⟨index⟩ = some ⟨.literal text, [.literal text]⟩ := by
    decide
  obtain ⟨within, -⟩ := List.getElem?_eq_some_iff.1 known
  rcases each id.index within with ⟨X, -, place⟩ | ⟨text, -, mark⟩
  · exact .inl ⟨X, place⟩
  · exact .inr ⟨text, mark⟩

/-- Whatever the tokens are, matching finds a derivation from the name of its rule, or a piece of
punctuation if its rule has none. -/
theorem derives_or_mark {ts : List Token} {id : RuleId} {found : Match Action}
    (matched : (grammar.matchRule id ts).found = some found) :
    (∃ X, X.place = id ∧ Derives X found.tree) ∨
      ∃ token, found.tree = .literal token ∧
        grammar.rule? id = some ⟨.literal token.text, [.literal token.text]⟩ := by
  have within : (⟨id, ts.length⟩ : Attempt).stop ≤ ts.length := le_rfl
  obtain ⟨answer, chart, run, answer_ok, -⟩ :=
    (Matcher.Invariant.justifying grammar ts true).exists_run within within
  have answered : grammar.answer? true ts ⟨id, ts.length⟩ = some answer := by
    simp [answer?, run]
  rw [found_matchRule answered] at matched
  have justified : grammar.Justified ts id found.start ts.length found.tree :=
    answer_ok found matched
  have reads := reads_of_justified justified
  obtain ⟨rule, known⟩ := justified.exists_rule
  rcases place_or_mark known with ⟨X, place⟩ | ⟨text, mark⟩
  · exact .inl ⟨X, place, reads.derives X place⟩
  · obtain ⟨token, same, rfl⟩ := reads.mark text mark
    exact .inr ⟨token, same, mark⟩

end DiceCalculator.Dice
