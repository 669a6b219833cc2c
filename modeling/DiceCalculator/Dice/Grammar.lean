import DiceCalculator.Dice.Action
import DiceCalculator.Grammar.Matching

/-!
# The grammar of dice expressions

    PlusMinusOp  := ARITHOP
    MultDivOp    := FACTOROP
    DotOperation := DotOperation '.' Name | CHARSEQUENCE
    Name         := CHARSEQUENCE
    Atom         := NUMBER | DICE | DotOperation | '(' ArithExpr ')'
    Term         := Term MultDivOp Atom | Atom
    ArithExpr    := ArithExpr PlusMinusOp Term | '-' Term | Term Term | Term
    Assignment   := DotOperation '=' ArithExpr | ArithExpr
    Expr         := Expr ',' Assignment | Assignment

Two terms in a row repeat: `3 d6` is the sum of three separate rolls of `d6`.
-/

namespace DiceCalculator.Dice

/-! The places of the rules, in order, and then those of the punctuation. -/

namespace Place

abbrev plusMinusOp : RuleId := ⟨0⟩
abbrev multDivOp : RuleId := ⟨1⟩
abbrev dotOperation : RuleId := ⟨2⟩
abbrev name : RuleId := ⟨3⟩
abbrev atom : RuleId := ⟨4⟩
abbrev term : RuleId := ⟨5⟩
abbrev arithExpr : RuleId := ⟨6⟩
abbrev assignment : RuleId := ⟨7⟩
abbrev expr : RuleId := ⟨8⟩
abbrev dot : RuleId := ⟨9⟩
abbrev equals : RuleId := ⟨10⟩
abbrev comma : RuleId := ⟨11⟩
abbrev minus : RuleId := ⟨12⟩
abbrev leftParen : RuleId := ⟨13⟩
abbrev rightParen : RuleId := ⟨14⟩

end Place

open Place

def grammar : Grammar Action where
  rules := [
    ⟨.plusMinusOp, [.terminal .arithOp .sign]⟩,
    ⟨.multDivOp, [.terminal .factorOp .sign]⟩,
    ⟨.dotOperation, [
      .sequence [dotOperation, dot, name] .name,
      .terminal .charSequence .name]⟩,
    ⟨.name, [.terminal .charSequence .name]⟩,
    ⟨.atom, [
      .terminal .number .number,
      .terminal .dice .die,
      .sequence [dotOperation] .same,
      .sequence [leftParen, arithExpr, rightParen] .same]⟩,
    ⟨.term, [
      .sequence [term, multDivOp, atom] .scale,
      .sequence [atom] .same]⟩,
    ⟨.arithExpr, [
      .sequence [arithExpr, plusMinusOp, term] .combine,
      .sequence [minus, term] .negate,
      .sequence [term, term] .rounds,
      .sequence [term] .same]⟩,
    ⟨.assignment, [
      .sequence [dotOperation, equals, arithExpr] .assign,
      .sequence [arithExpr] .same]⟩,
    ⟨.expr, [
      .sequence [expr, comma, assignment] .list,
      .sequence [assignment] .same]⟩,
    ⟨.literal ".", [.literal "."]⟩,
    ⟨.literal "=", [.literal "="]⟩,
    ⟨.literal ",", [.literal ","]⟩,
    ⟨.literal "-", [.literal "-"]⟩,
    ⟨.literal "(", [.literal "("]⟩,
    ⟨.literal ")", [.literal ")"]⟩]
  root := expr

end DiceCalculator.Dice
