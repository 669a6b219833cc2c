import DiceCalculator.Proofs.Dice.Parsing
import DiceCalculator.Proofs.Dice.Printing
import DiceCalculator.Proofs.Evaluation.Drawing
import DiceCalculator.Proofs.Evaluation.Totality

/-!
# Expansion

Where no count of a repetition rolls dice, the dice of an expression can be read
off its tree: those of the parts from left to right, and in a repetition those
of the repeated part as often as the count says. A part without dice is worth
the same in every context, so a count is the same in each round and in each
evaluation, however deep it stands.
-/

namespace DiceCalculator

namespace Tree

variable {α : Type} {tree node : Tree α} {parts : List (Tree α)}

theorem tokens_subset_tokensOf (member : tree ∈ parts) : tree.tokens ⊆ tokensOf parts := by
  induction parts with
  | nil => exact absurd member List.not_mem_nil
  | cons first rest inductionHypothesis =>
    rw [tokensOf]
    obtain rfl | later := List.mem_cons.1 member
    · exact List.subset_append_left _ _
    · exact List.Subset.trans (inductionHypothesis later) (List.subset_append_right _ _)

/-- A node has no tokens but those of the tree. -/
theorem tokens_subset_of_descend? {path : List Nat} (reached : tree.descend? path = some node) :
    node.tokens ⊆ tree.tokens := by
  induction path generalizing tree with
  | nil =>
    cases reached
    exact List.Subset.refl _
  | cons index path inductionHypothesis =>
    obtain ⟨child, found, reached⟩ := Option.bind_eq_some_iff.1 reached
    refine List.Subset.trans (inductionHypothesis reached) ?_
    have member := List.mem_of_getElem? found
    cases tree with
    | leaf | literal => exact absurd member List.not_mem_nil
    | branch _ parts => exact tokens_subset_tokensOf (List.mem_filter.1 member).1

end Tree

namespace Dice

open RollM

variable {X : Nonterminal} {tree first second third : Tree Action} {word : List Token}

/-- The word has no dice but those without sides. -/
def Diceless (word : List Token) : Prop :=
  ∀ token ∈ word, token.kind = .dice → spelled token.text.toList.tail = 0

instance : DecidablePred Diceless := fun word =>
  inferInstanceAs (Decidable (∀ token ∈ word, _))

/-- So none of its dice are rolled. -/
theorem Diceless.sidesOf?_eq_none (diceless : Diceless word)
    (spells : ∀ token ∈ word, Spells token.kind token.text.toList) :
    ∀ token ∈ word, token.kind = .dice → sidesOf? token.text = none := by
  intro token member kind
  rw [sidesOf?_eq (kind ▸ spells token member), diceless token member kind]
  rfl

/-- No repetition in the tree has dice in its count. -/
def DicelessCounts (tree : Tree Action) : Prop :=
  ∀ path count term, tree.descend? path = some (.branch .rounds [count, term]) →
    Diceless count.tokens

/-- It is enough to look at the tree itself and then at its children. -/
theorem dicelessCounts_iff : DicelessCounts tree ↔
    (∀ count term, tree = .branch .rounds [count, term] → Diceless count.tokens) ∧
      ∀ child ∈ tree.children, DicelessCounts child := by
  constructor
  · intro diceless
    refine ⟨fun count term same => diceless [] count term (congrArg some same), ?_⟩
    intro child member path count term reached
    obtain ⟨index, found⟩ := List.mem_iff_getElem?.1 member
    refine diceless (index :: path) count term ?_
    rw [Tree.descend?, found]
    exact reached
  · rintro ⟨here, below⟩ (_ | ⟨index, path⟩) count term reached
    · exact here count term (Option.some.inj reached)
    · obtain ⟨child, found, reached⟩ := Option.bind_eq_some_iff.1 reached
      exact below child (List.mem_of_getElem? found) path count term reached

theorem DicelessCounts.child (diceless : DicelessCounts tree) {child : Tree Action}
    (member : child ∈ tree.children) : DicelessCounts child :=
  (dicelessCounts_iff.1 diceless).2 child member

@[simp]
theorem dicelessCounts_leaf (action : Action) (token : Token) :
    DicelessCounts (.leaf action token) :=
  dicelessCounts_iff.2 ⟨nofun, nofun⟩

@[simp]
theorem dicelessCounts_branch (action : Action) (parts : List (Tree Action)) :
    DicelessCounts (.branch action parts) ↔
      (∀ count term, action = .rounds → parts = [count, term] → Diceless count.tokens) ∧
        ∀ child ∈ (Tree.branch action parts).children, DicelessCounts child := by
  rw [dicelessCounts_iff]
  simp only [Tree.branch.injEq, and_imp]

/-- The first value that the tree comes to without a limit. -/
def valueOf (tree : Tree Action) : Value :=
  match (evaluate tree).runIn (.fresh none ({} : Highest)) with
  | (.ok values, _) => values.first
  | (.error _, _) => 0

mutual

/-- The dice of a tree, each as often as it is rolled. -/
def expansion : Tree Action → List Sides
  | .leaf .die token => (Sides.ofNat? (spelled token.text.toList.tail)).toList
  | .leaf _ _ => []
  | .literal _ => []
  | .branch .rounds [count, term] =>
    (List.replicate (valueOf count).toInt.toNat (expansion term)).flatten
  | .branch _ parts => expansionOf parts

/-- The dice of trees in a row. -/
def expansionOf : List (Tree Action) → List Sides
  | [] => []
  | tree :: rest => expansion tree ++ expansionOf rest

end

theorem expansion_one (action : Action) : expansion (.branch action [first]) = expansion first := by
  cases action <;> exact List.append_nil _

theorem expansion_three (action : Action) :
    expansion (.branch action [first, second, third]) =
      expansion first ++ (expansion second ++ expansion third) := by
  cases action <;> simp only [expansion, expansionOf, List.append_nil]

theorem expansion_negate (mark : Token) :
    expansion (.branch .negate [.literal mark, first]) = expansion first :=
  List.append_nil _

theorem valueOf_eq {values : Values}
    (steady : ∀ (σ : Type) [Roller σ], Steady values (evaluate tree : RollM σ Values)) :
    valueOf tree = values.first := by
  obtain ⟨later, run⟩ := (steady Highest).comesTo 0 {}
  have same : (evaluate tree).runIn (.fresh none ({} : Highest)) = (.ok values, _) := run
  rw [valueOf, same]

namespace Derives

/-- A derivation without dice is worth the same in every context, and for no draws. -/
theorem exists_steady (derivation : Derives X tree)
    (idle : ∀ token ∈ tree.tokens, token.kind = .dice → sidesOf? token.text = none) :
    ∃ values, ∀ (σ : Type) [Roller σ], Steady values (evaluate tree : RollM σ Values) := by
  induction derivation with
  | plusMinusOp | multDivOp | word | name | number | dotted => exact ⟨_, fun _ _ => .pure _⟩
  | @die token kind =>
    refine ⟨.single 0, fun σ _ => ?_⟩
    rw [evaluate_die, idle token (List.mem_singleton_self token) kind]
    exact .pure _
  | reference part inner | operand part inner | single part inner | value part inner
  | only part inner =>
    rw [Tree.tokens_one] at idle
    simp only [evaluate_same part.isLiteral_eq_false]
    exact inner idle
  | nested _ part _ inner =>
    rw [Tree.tokens_three, List.forall_mem_append, List.forall_mem_append] at idle
    simp only [evaluate_nested _ _ part.isLiteral_eq_false]
    exact inner idle.2.1
  | negate _ part inner =>
    rw [Tree.tokens_two, List.forall_mem_append] at idle
    obtain ⟨values, steady⟩ := inner idle.2
    simp only [evaluate_negate _ part.isLiteral_eq_false]
    exact ⟨_, fun σ _ => (steady σ).leading.bind (.pure _)⟩
  | scale left sign right first _ second =>
    rw [Tree.tokens_three, List.forall_mem_append, List.forall_mem_append] at idle
    obtain ⟨as, steadyLeft⟩ := first idle.1
    obtain ⟨bs, steadyRight⟩ := second idle.2.2
    cases sign
    simp only [evaluate_scale _ left.isLiteral_eq_false right.isLiteral_eq_false]
    exact ⟨_, fun σ _ => (steadyLeft σ).leading.bind ((steadyRight σ).leading.bind (.pure _))⟩
  | combine left sign right first _ second =>
    rw [Tree.tokens_three, List.forall_mem_append, List.forall_mem_append] at idle
    obtain ⟨as, steadyLeft⟩ := first idle.1
    obtain ⟨bs, steadyRight⟩ := second idle.2.2
    cases sign
    simp only [evaluate_combine _ left.isLiteral_eq_false right.isLiteral_eq_false]
    exact ⟨_, fun σ _ => (steadyLeft σ).leading.bind ((steadyRight σ).leading.bind (.pure _))⟩
  | rounds count part first second =>
    rw [Tree.tokens_two, List.forall_mem_append] at idle
    obtain ⟨counts, steadyCount⟩ := first idle.1
    obtain ⟨values, steady⟩ := second idle.2
    simp only [evaluate_rounds count.isLiteral_eq_false part.isLiteral_eq_false]
    exact ⟨_, fun σ _ => (steadyCount σ).leading.bind
      ((Steady.request _).bind (((steady σ).leading.addRounds _).bind (.pure _)))⟩
  | assign path _ part _ inner =>
    rw [Tree.tokens_three, List.forall_mem_append, List.forall_mem_append] at idle
    simp only [evaluate_assign _ path.isLiteral_eq_false part.isLiteral_eq_false]
    exact inner idle.2.2
  | list front _ last first second =>
    rw [Tree.tokens_three, List.forall_mem_append, List.forall_mem_append] at idle
    obtain ⟨as, steadyFront⟩ := first idle.1
    obtain ⟨bs, steadyLast⟩ := second idle.2.2
    simp only [evaluate_list _ front.isLiteral_eq_false last.isLiteral_eq_false]
    exact ⟨_, fun σ _ => (steadyFront σ).bind ((steadyLast σ).bind (.pure _))⟩

/-- Without a limit a derivation comes to one value, but for lists. -/
theorem exists_comesTo {σ : Type} [Roller σ] (derivation : Derives X tree) (other : X ≠ .expr)
    (rolls : Nat) (roller : σ) :
    ∃ value later, ComesTo (evaluate tree) rolls roller (.single value) later := by
  obtain ⟨ends, limit_eq⟩ := derivation.yields ⟨none, rolls, roller⟩
  rw [derivation.listsOnLeft_eq_zero other] at ends
  generalize run : (evaluate tree).runIn ⟨none, rolls, roller⟩ = result at ends limit_eq
  obtain ⟨outcome, limit, counted, later⟩ := result
  obtain rfl : limit = none := limit_eq
  cases ends with
  | cut limited => exact absurd rfl limited
  | @ok values length =>
    have nothing : values.others = [] := by simpa [Values.toList] using length
    have alone : values = .single values.first := Values.ext rfl nothing
    exact ⟨values.first, later, counted, alone ▸ run⟩

theorem exists_steady_single (derivation : Derives X tree) (other : X ≠ .expr)
    (idle : ∀ token ∈ tree.tokens, token.kind = .dice → sidesOf? token.text = none) :
    ∃ value, ∀ (σ : Type) [Roller σ], Steady (.single value) (evaluate tree : RollM σ Values) := by
  obtain ⟨values, steady⟩ := derivation.exists_steady idle
  obtain ⟨value, later, comes⟩ := derivation.exists_comesTo other 0 ({} : Highest)
  obtain ⟨rfl, -⟩ := ((steady Highest).comesTo 0 {}).eq comes
  exact ⟨value, steady⟩

theorem expansion_path (derivation : Derives .dotOperation tree) : expansion tree = [] := by
  generalize path : Nonterminal.dotOperation = X at derivation
  induction derivation with
  | word => rfl
  | dotted _ _ part inner _ =>
    cases part
    rw [expansion_three, inner rfl]
    rfl
  | _ => cases path

/-- A derivation draws the dice of its expansion. -/
theorem draws_expansion {σ : Type} [Roller σ] (derivation : Derives X tree)
    (spells : ∀ token ∈ tree.tokens, Spells token.kind token.text.toList)
    (diceless : DicelessCounts tree) :
    Draws (expansion tree) (evaluate tree : RollM σ Values) := by
  induction derivation with
  | plusMinusOp | multDivOp | word | name | number => exact .pure trivial
  | dotted owner dot part =>
    rw [evaluate_dotted, (dotted owner dot part).expansion_path]
    exact .pure trivial
  | @die token kind =>
    rw [evaluate_die, sidesOf?_eq (kind ▸ spells token (List.mem_singleton_self token)), expansion]
    cases Sides.ofNat? (spelled token.text.toList.tail) with
    | none => exact .pure trivial
    | some sides => exact (Asks.rollDie sides).map fun _ _ _ _ => trivial
  | reference part inner | operand part inner | single part inner | value part inner
  | only part inner =>
    rw [Tree.tokens_one] at spells
    rw [evaluate_same part.isLiteral_eq_false, expansion_one]
    exact inner spells (diceless.child (by simp [Tree.children, part.isLiteral_eq_false]))
  | nested _ part _ inner =>
    rw [Tree.tokens_three, List.forall_mem_append, List.forall_mem_append] at spells
    rw [evaluate_nested _ _ part.isLiteral_eq_false, expansion_three]
    have draws := inner spells.2.1
      (diceless.child (by simp [Tree.children, part.isLiteral_eq_false]))
    rwa [← List.append_nil (expansion _)] at draws
  | negate _ part inner =>
    rw [Tree.tokens_two, List.forall_mem_append] at spells
    rw [evaluate_negate _ part.isLiteral_eq_false, expansion_negate]
    have draws := inner spells.2 (diceless.child (by simp [Tree.children, part.isLiteral_eq_false]))
    exact draws.leading.map
  | scale left sign right first _ second =>
    rw [Tree.tokens_three, List.forall_mem_append, List.forall_mem_append] at spells
    cases sign with
    | @multDivOp mark =>
      have kept := children_around_sign mark left.isLiteral_eq_false right.isLiteral_eq_false .scale
      have drawsLeft := first spells.1 (diceless.child (by simp [kept]))
      have drawsRight := second spells.2.2 (diceless.child (by simp [kept]))
      rw [evaluate_scale _ left.isLiteral_eq_false right.isLiteral_eq_false, expansion_three]
      exact drawsLeft.leading.bind fun _ => drawsRight.leading.map
  | combine left sign right first _ second =>
    rw [Tree.tokens_three, List.forall_mem_append, List.forall_mem_append] at spells
    cases sign with
    | @plusMinusOp mark =>
      have kept :=
        children_around_sign mark left.isLiteral_eq_false right.isLiteral_eq_false .combine
      have drawsLeft := first spells.1 (diceless.child (by simp [kept]))
      have drawsRight := second spells.2.2 (diceless.child (by simp [kept]))
      rw [evaluate_combine _ left.isLiteral_eq_false right.isLiteral_eq_false, expansion_three]
      exact drawsLeft.leading.bind fun _ => drawsRight.leading.map
  | @rounds count term derivesCount derivesTerm first second =>
    rw [Tree.tokens_two, List.forall_mem_append] at spells
    -- the count is the same in every context
    have dicelessCount := (dicelessCounts_iff.1 diceless).1 count term rfl
    obtain ⟨counts, steady⟩ :=
      derivesCount.exists_steady (dicelessCount.sidesOf?_eq_none spells.1)
    have draws := second spells.2
      (diceless.child (by simp [Tree.children, derivesTerm.isLiteral_eq_false]))
    rw [evaluate_rounds derivesCount.isLiteral_eq_false derivesTerm.isLiteral_eq_false, expansion,
      valueOf_eq steady]
    exact (steady σ).leading.before ((Steady.request _).before (draws.leading.addRounds _).map)
  | @assign _ equals _ path _ part _ inner =>
    rw [Tree.tokens_three, List.forall_mem_append, List.forall_mem_append] at spells
    have kept :=
      children_around_literal equals path.isLiteral_eq_false part.isLiteral_eq_false .assign
    rw [evaluate_assign _ path.isLiteral_eq_false part.isLiteral_eq_false, expansion_three,
      path.expansion_path]
    exact inner spells.2.2 (diceless.child (by simp [kept]))
  | @list _ comma _ front _ last first second =>
    rw [Tree.tokens_three, List.forall_mem_append, List.forall_mem_append] at spells
    have kept :=
      children_around_literal comma front.isLiteral_eq_false last.isLiteral_eq_false .list
    have drawsFront := first spells.1 (diceless.child (by simp [kept]))
    have drawsLast := second spells.2.2 (diceless.child (by simp [kept]))
    rw [evaluate_list _ front.isLiteral_eq_false last.isLiteral_eq_false, expansion_three]
    exact drawsFront.bind fun _ => drawsLast.map

end Derives

/-- In a parsed text without dice in the counts of its repetitions, the dice that an evaluation asks
for are those of the expansion, whatever the roller gives and wherever the count of rolls begins.
The counts come to their values in every context. -/
theorem draws_eq_expansion {text : String} {ts : List Token} {found : Match Action}
    (cut : tokenize text = .ok ts) (parsed : (grammar.parse ts).found = some found)
    (diceless : DicelessCounts found.tree) :
    (∀ {σ : Type} [Roller σ] (rolls : Nat) (roller : σ),
      (draws found.tree ⟨none, rolls, roller⟩).map Draw.sides = expansion found.tree ∧
      ∃ values, ComesTo (evaluate found.tree) rolls roller values
        (Roller.drawAll (expansion found.tree) roller).2) ∧
    ∀ path count term, found.tree.descend? path = some (.branch .rounds [count, term]) →
      ∀ {σ : Type} [Roller σ] (rolls : Nat) (roller : σ),
        ComesTo (evaluate count) rolls roller (.single (valueOf count)) roller := by
  obtain ⟨derivation, suffix⟩ := derives_of_found (X := .expr) (lexical_of_mem cut) parsed
  have spells : ∀ token ∈ found.tree.tokens, Spells token.kind token.text.toList :=
    fun token member => spells_of_mem cut token (suffix.subset member)
  constructor
  · intro σ _ rolls roller
    have draws (σ : Type) [Roller σ] := derivation.draws_expansion (σ := σ) spells diceless
    obtain ⟨values, comes, -⟩ := draws σ rolls roller
    exact ⟨Asks.sides_draws draws rolls roller, values, comes⟩
  · intro path count term reached σ _ rolls roller
    obtain ⟨Y, derives, -⟩ := derivation.descend path reached
    cases derives with
    | rounds derivesCount _ =>
      have within := Tree.tokens_subset_of_descend? reached
      rw [Tree.tokens_two] at within
      have idle := (diceless path count term reached).sidesOf?_eq_none
        fun token member => spells token (within (List.mem_append_left _ member))
      obtain ⟨value, steady⟩ := derivesCount.exists_steady_single (by simp) idle
      rw [valueOf_eq steady]
      exact (steady σ).comesTo rolls roller

/-- The count is a repetition itself, and what is repeated is one too. -/
theorem draws_eq_expansion_nested :
    let number (n : Nat) : Tree Action := .branch .same [.leaf .number (numeral n)]
    let group (inner : Tree Action) : Tree Action :=
      .branch .same [.branch .same [.literal opening, inner, .literal closing]]
    let die : Tree Action := .branch .same [.leaf .die ⟨.dice, "d4"⟩]
    let tree : Tree Action := .branch .same [.branch .same [.branch .rounds [
      group (.branch .rounds [number 2, number 1]), group (.branch .rounds [number 2, die])]]]
    let four : Sides := { count := 4 }
    tokenize "(2 1) (2 d4)" = .ok tree.tokens ∧
    (grammar.parse tree.tokens).found = some ⟨0, tree⟩ ∧ DicelessCounts tree ∧
    (draws tree ⟨none, 7, ({} : Highest)⟩).map Draw.sides = [four, four, four, four] := by
  intro number group die tree four
  have cut : tokenize "(2 1) (2 d4)" = .ok tree.tokens := by decide +kernel
  have derivesNumber (n : Nat) : Derives .term (number n) := .operand (.number rfl)
  have derivesGroup {inner : Tree Action} (derives : Derives .arithExpr inner) :
      Derives .term (group inner) := .operand (.nested rfl derives rfl)
  have derivation : Derives .expr tree :=
    .only (.value (.rounds (derivesGroup (.rounds (derivesNumber 2) (derivesNumber 1)))
      (derivesGroup (.rounds (derivesNumber 2) (.operand (.die rfl))))))
  have parsed := parse_of_derives derivation (lexical_of_mem cut)
  have diceless : DicelessCounts tree := by
    simp [tree, number, group, die, Tree.children, Tree.tokens, Tree.tokensOf, Diceless, numeral,
      opening, closing]
  obtain ⟨drawn, -⟩ := (draws_eq_expansion cut parsed diceless).1 7 ({} : Highest)
  refine ⟨cut, parsed, diceless, drawn.trans ?_⟩
  decide +kernel

end Dice

end DiceCalculator
