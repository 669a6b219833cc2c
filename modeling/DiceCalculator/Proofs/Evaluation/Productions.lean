import DiceCalculator.Proofs.Dice.Language

/-!
# Evaluation by productions

What a derivation is worth in terms of its parts, one equation for each
production. Punctuation is gone here, and so are the numbers of the operands:
nothing that follows looks at how an action finds them.
-/

namespace DiceCalculator

namespace Tree

variable {α : Type}

@[simp] theorem isLiteral_leaf (action : α) (token : Token) :
    (leaf action token).isLiteral = false :=
  rfl

@[simp] theorem isLiteral_literal (token : Token) : (literal token : Tree α).isLiteral = true :=
  rfl

@[simp] theorem isLiteral_branch (action : α) (parts : List (Tree α)) :
    (branch action parts).isLiteral = false :=
  rfl

end Tree

namespace Dice

theorem Derives.isLiteral_eq_false {X : Nonterminal} {tree : Tree Action}
    (derivation : Derives X tree) : tree.isLiteral = false := by
  cases derivation <;> rfl

variable {σ : Type} [Roller σ]

/-- The first value of a computation. -/
def leading (computation : RollM σ Values) : RollM σ Value := do
  return (← computation).first

omit [Roller σ] in
theorem runIn_leading {computation : RollM σ Values} {context later : Context σ} {values : Values}
    (run : computation.runIn context = (.ok values, later)) :
    (leading computation).runIn context = (.ok values.first, later) :=
  RollM.runIn_bind_of_ok run

theorem evaluate_of_children {action : Action} {parts children : List (Tree Action)}
    (kept : (Tree.branch action parts).children = children) :
    (evaluate (.branch action parts) : RollM σ Values) =
      action.run (.branch action parts) (children.map evaluate) :=
  kept ▸ Tree.evaluate_branch ..

theorem evaluate_number (token : Token) :
    (evaluate (.leaf .number token) : RollM σ Values) =
      pure (.single (.ofNumeral token.text)) :=
  rfl

theorem evaluate_die (token : Token) :
    (evaluate (.leaf .die token) : RollM σ Values) =
      match sidesOf? token.text with
      | none => pure (.single 0)
      | some sides => do return .single (.clamp (← RollM.rollDie sides).toNat) :=
  rfl

theorem evaluate_dotted (parts : List (Tree Action)) :
    (evaluate (.branch .name parts) : RollM σ Values) = pure (.single nameValue) :=
  rfl

section Parts

variable {first second : Tree Action} (left right mark : Token)

theorem evaluate_same (part : first.isLiteral = false) :
    (evaluate (.branch .same [first]) : RollM σ Values) = evaluate first := by
  have kept : (Tree.branch Action.same [first]).children = [first] := by
    simp [Tree.children, part]
  exact evaluate_of_children kept

theorem evaluate_nested (part : first.isLiteral = false) :
    (evaluate (.branch .same [.literal left, first, .literal right]) : RollM σ Values) =
      evaluate first := by
  have kept : (Tree.branch Action.same [.literal left, first, .literal right]).children =
      [first] := by
    simp [Tree.children, part]
  exact evaluate_of_children kept

theorem evaluate_negate (part : first.isLiteral = false) :
    (evaluate (.branch .negate [.literal mark, first]) : RollM σ Values) = do
      return .single (-(← leading (evaluate first))) := by
  have kept : (Tree.branch Action.negate [.literal mark, first]).children = [first] := by
    simp [Tree.children, part]
  exact evaluate_of_children kept

variable (firstPart : first.isLiteral = false) (secondPart : second.isLiteral = false)

include firstPart secondPart

theorem children_around_sign (action : Action) :
    (Tree.branch action [first, .leaf .sign mark, second]).children =
      [first, .leaf .sign mark, second] := by
  simp [Tree.children, firstPart, secondPart]

theorem children_around_literal (action : Action) :
    (Tree.branch action [first, .literal mark, second]).children = [first, second] := by
  simp [Tree.children, firstPart, secondPart]

theorem evaluate_scale :
    (evaluate (.branch .scale [first, .leaf .sign mark, second]) : RollM σ Values) = do
      let a ← leading (evaluate first)
      let b ← leading (evaluate second)
      return .single (if signOf mark.text = 1 then a * b else a / b) :=
  evaluate_of_children (children_around_sign mark firstPart secondPart .scale)

theorem evaluate_combine :
    (evaluate (.branch .combine [first, .leaf .sign mark, second]) : RollM σ Values) = do
      let a ← leading (evaluate first)
      let b ← leading (evaluate second)
      return .single (a + signOf mark.text * b) :=
  evaluate_of_children (children_around_sign mark firstPart secondPart .combine)

theorem evaluate_rounds :
    (evaluate (.branch .rounds [first, second]) : RollM σ Values) = do
      let count ← leading (evaluate first)
      RollM.announce count.toInt.toNat
      return .single (← addRounds (leading (evaluate second)) count.toInt.toNat 0) := by
  have kept : (Tree.branch Action.rounds [first, second]).children = [first, second] := by
    simp [Tree.children, firstPart, secondPart]
  exact evaluate_of_children kept

theorem evaluate_assign :
    (evaluate (.branch .assign [first, .literal mark, second]) : RollM σ Values) =
      evaluate second :=
  evaluate_of_children (children_around_literal mark firstPart secondPart .assign)

theorem evaluate_list :
    (evaluate (.branch .list [first, .literal mark, second]) : RollM σ Values) = do
      let before ← evaluate first
      let after ← evaluate second
      return before ++ after :=
  evaluate_of_children (children_around_literal mark firstPart secondPart .list)

end Parts

end Dice

end DiceCalculator
