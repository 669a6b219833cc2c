import DiceCalculator.Dice.Grammar
import DiceCalculator.Proofs.Dice.Lexemes
import DiceCalculator.Proofs.Dice.Nesting
import Mathlib.Data.Set.Defs

/-!
# The language of dice expressions

The grammar read as a plain context-free one, without any order of preference:
a tree derives from a name if its parts do as one of the productions says. Every
word is balanced, and an equals sign or a comma stands only in words of the
names whose productions have it.
-/

namespace DiceCalculator.Dice

/-- The names that the grammar defines. -/
inductive Nonterminal where
  | plusMinusOp
  | multDivOp
  | dotOperation
  | name
  | atom
  | term
  | arithExpr
  | assignment
  | expr
  deriving DecidableEq

namespace Nonterminal

/-- The place of the rule for the name. -/
def place : Nonterminal → RuleId
  | .plusMinusOp => Place.plusMinusOp
  | .multDivOp => Place.multDivOp
  | .dotOperation => Place.dotOperation
  | .name => Place.name
  | .atom => Place.atom
  | .term => Place.term
  | .arithExpr => Place.arithExpr
  | .assignment => Place.assignment
  | .expr => Place.expr

/-- Punctuation that never occurs in a word of the name. -/
def barred : Nonterminal → List String
  | .expr => []
  | .assignment => [","]
  | _ => [",", "="]

end Nonterminal

/-- The tree is a derivation from the name; one case for each production. -/
inductive Derives : Nonterminal → Tree Action → Prop where
  | plusMinusOp {token} : token.kind = .arithOp → Derives .plusMinusOp (.leaf .sign token)
  | multDivOp {token} : token.kind = .factorOp → Derives .multDivOp (.leaf .sign token)
  | dotted {owner dot part} :
      Derives .dotOperation owner → dot.text = "." → Derives .name part →
      Derives .dotOperation (.branch .name [owner, .literal dot, part])
  | word {token} : token.kind = .charSequence → Derives .dotOperation (.leaf .name token)
  | name {token} : token.kind = .charSequence → Derives .name (.leaf .name token)
  | number {token} : token.kind = .number → Derives .atom (.leaf .number token)
  | die {token} : token.kind = .dice → Derives .atom (.leaf .die token)
  | reference {path} : Derives .dotOperation path → Derives .atom (.branch .same [path])
  | nested {left inner right} :
      left.text = "(" → Derives .arithExpr inner → right.text = ")" →
      Derives .atom (.branch .same [.literal left, inner, .literal right])
  | scale {term sign atom} :
      Derives .term term → Derives .multDivOp sign → Derives .atom atom →
      Derives .term (.branch .scale [term, sign, atom])
  | operand {atom} : Derives .atom atom → Derives .term (.branch .same [atom])
  | combine {sum sign term} :
      Derives .arithExpr sum → Derives .plusMinusOp sign → Derives .term term →
      Derives .arithExpr (.branch .combine [sum, sign, term])
  | negate {minus term} :
      minus.text = "-" → Derives .term term →
      Derives .arithExpr (.branch .negate [.literal minus, term])
  | rounds {count term} :
      Derives .term count → Derives .term term →
      Derives .arithExpr (.branch .rounds [count, term])
  | single {term} : Derives .term term → Derives .arithExpr (.branch .same [term])
  | assign {path equals value} :
      Derives .dotOperation path → equals.text = "=" → Derives .arithExpr value →
      Derives .assignment (.branch .assign [path, .literal equals, value])
  | value {value} : Derives .arithExpr value → Derives .assignment (.branch .same [value])
  | list {front comma last} :
      Derives .expr front → comma.text = "," → Derives .assignment last →
      Derives .expr (.branch .list [front, .literal comma, last])
  | only {last} : Derives .assignment last → Derives .expr (.branch .same [last])

/-- The words that derive from the name. -/
def Nonterminal.language (X : Nonterminal) : Set (List Token) :=
  {word | ∃ tree, Derives X tree ∧ tree.tokens = word}

theorem Lexical.balanced {token : Token} (lexical : Lexical token)
    (other : token.kind ≠ .literal) : Balanced [token] :=
  balanced_single rfl (lexical.text_ne other (by simp)) (lexical.text_ne other (by simp))

namespace Derives

variable {X : Nonterminal} {tree : Tree Action}

theorem tokens_ne_nil (derivation : Derives X tree) : tree.tokens ≠ [] := by
  induction derivation with
  | plusMinusOp | multDivOp | word | name | number | die => exact List.cons_ne_nil _ _
  | nested | negate => exact List.cons_ne_nil _ _
  | reference _ something | operand _ something | single _ something | value _ something
  | only _ something =>
    rw [Tree.tokens_one]
    exact something
  | rounds _ _ something =>
    rw [Tree.tokens_two]
    exact List.append_ne_nil_of_left_ne_nil something _
  | dotted _ _ _ something | scale _ _ _ something | combine _ _ _ something
  | assign _ _ _ something | list _ _ _ something =>
    rw [Tree.tokens_three]
    exact List.append_ne_nil_of_left_ne_nil something _

theorem balanced (derivation : Derives X tree) (lexical : ∀ token ∈ tree.tokens, Lexical token) :
    Balanced tree.tokens := by
  induction derivation with
  | plusMinusOp kind | multDivOp kind | word kind | name kind | number kind | die kind =>
    exact (lexical _ (List.mem_singleton_self _)).balanced (by simp [kind])
  | reference _ inductionHypothesis | operand _ inductionHypothesis | single _ inductionHypothesis
  | value _ inductionHypothesis | only _ inductionHypothesis =>
    rw [Tree.tokens_one] at lexical ⊢
    exact inductionHypothesis lexical
  | negate text _ inductionHypothesis =>
    rw [Tree.tokens_two, List.forall_mem_append] at lexical
    rw [Tree.tokens_two]
    exact (balanced_single text (by decide) (by decide)).append (inductionHypothesis lexical.2)
  | rounds _ _ first second =>
    rw [Tree.tokens_two, List.forall_mem_append] at lexical
    rw [Tree.tokens_two]
    exact (first lexical.1).append (second lexical.2)
  | scale _ _ _ first second third | combine _ _ _ first second third =>
    rw [Tree.tokens_three, List.forall_mem_append, List.forall_mem_append] at lexical
    rw [Tree.tokens_three]
    obtain ⟨lexicalFirst, lexicalSecond, lexicalThird⟩ := lexical
    exact (first lexicalFirst).append ((second lexicalSecond).append (third lexicalThird))
  | dotted _ text _ first third | assign _ text _ first third | list _ text _ first third =>
    rw [Tree.tokens_three, List.forall_mem_append, List.forall_mem_append] at lexical
    rw [Tree.tokens_three]
    obtain ⟨lexicalFirst, -, lexicalThird⟩ := lexical
    have mark := balanced_single text (by decide) (by decide)
    exact (first lexicalFirst).append (mark.append (third lexicalThird))
  | nested left _ right inductionHypothesis =>
    rw [Tree.tokens_three, List.forall_mem_append, List.forall_mem_append] at lexical
    rw [Tree.tokens_three]
    exact (inductionHypothesis lexical.2.1).enclose left right

theorem text_notMem_barred (derivation : Derives X tree) {token : Token}
    (member : token ∈ tree.tokens) (lexical : Lexical token) : token.text ∉ X.barred := by
  have other (kind : token.kind ≠ .literal) : token.text ∉ [",", "="] := by
    simp [lexical.text_ne kind]
  induction derivation with
  | plusMinusOp kind | multDivOp kind | word kind | name kind | number kind | die kind =>
    cases List.mem_singleton.1 member
    exact other (by simp [kind])
  | reference _ first | operand _ first | single _ first | value _ first | only _ first =>
    rw [Tree.tokens_one] at member
    have outside := first member
    simp_all [Nonterminal.barred]
  | negate text _ second =>
    rw [Tree.tokens_two, List.mem_append] at member
    rcases member with member | member
    · cases List.mem_singleton.1 member
      simp [Nonterminal.barred, text]
    · exact second member
  | rounds _ _ first second =>
    rw [Tree.tokens_two, List.mem_append] at member
    exact member.elim first second
  | scale _ _ _ first second third | combine _ _ _ first second third =>
    rw [Tree.tokens_three, List.mem_append, List.mem_append] at member
    exact member.elim first fun later => later.elim second third
  | dotted _ text _ first third | assign _ text _ first third | list _ text _ first third =>
    rw [Tree.tokens_three, List.mem_append, List.mem_append] at member
    rcases member with member | member | member
    · have outside := first member
      simp_all [Nonterminal.barred]
    · cases List.mem_singleton.1 member
      simp [Nonterminal.barred, text]
    · have outside := third member
      simp_all [Nonterminal.barred]
  | nested left _ right inner =>
    rw [Tree.tokens_three, List.mem_append, List.mem_append] at member
    rcases member with member | member | member
    · cases List.mem_singleton.1 member
      simp [Nonterminal.barred, left]
    · exact inner member
    · cases List.mem_singleton.1 member
      simp [Nonterminal.barred, right]

end Derives

end DiceCalculator.Dice
