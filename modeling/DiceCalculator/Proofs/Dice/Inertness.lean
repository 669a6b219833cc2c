import DiceCalculator.Proofs.Dice.Parsing
import DiceCalculator.Proofs.Evaluation.Productions

/-!
# Names and assignments are inert

A name has no value of its own, and an assignment binds nothing. So other names
leave the shape of a parse and what it is worth as they are: where one name can
stand, every other one can, since none is ever taken for punctuation. And an
assignment is worth as much without its target, for what is left of it derives
like any other value.
-/

namespace DiceCalculator.Dice

open Grammar

/-- The trees give the same values or fail alike, and leave the same count and the same roller. The
roller may be one that records the dice it is asked for. -/
def WorthSame (first second : Tree Action) : Prop :=
  ∀ (σ : Type) [Roller σ] (context : Context σ),
    (evaluate first).runIn context = (evaluate second).runIn context

theorem worthSame_of_evaluate_eq {first second : Tree Action}
    (same : ∀ (σ : Type) [Roller σ], (evaluate first : RollM σ Values) = evaluate second) :
    WorthSame first second := by
  intro σ _ context
  rw [same σ]

/-! ## Other names -/

/-- The second token is another name if the first one is a name, and else the same token. -/
inductive Renames : Token → Token → Prop where
  | name {text other : String} :
      Row letters other.toList → Renames ⟨.charSequence, text⟩ ⟨.charSequence, other⟩
  | fixed {token} : token.kind ≠ .charSequence → Renames token token

theorem Renames.lexical {token other : Token} (renames : Renames token other)
    (lexical : Lexical token) : Lexical other := by
  cases renames with
  | name letters => exact lexical_of_spells letters
  | fixed => exact lexical

theorem lexical_of_renames {ts others : List Token} (renames : List.Forall₂ Renames ts others)
    (lexical : ∀ token ∈ ts, Lexical token) : ∀ token ∈ others, Lexical token := by
  induction renames with
  | nil => exact lexical
  | cons first _ inductionHypothesis =>
    rw [List.forall_mem_cons] at lexical ⊢
    exact ⟨first.lexical lexical.1, inductionHypothesis lexical.2⟩

mutual

/-- The trees differ in the texts of their names only. -/
inductive Renamed : Tree Action → Tree Action → Prop where
  | name {token other} : Renamed (.leaf .name token) (.leaf .name other)
  | leaf {action token} : Renamed (.leaf action token) (.leaf action token)
  | literal {token} : Renamed (.literal token) (.literal token)
  | branch {action trees others} :
      action ∉ [.sign, .number, .die] → RenamedAll trees others →
      Renamed (.branch action trees) (.branch action others)

inductive RenamedAll : List (Tree Action) → List (Tree Action) → Prop where
  | nil : RenamedAll [] []
  | cons {tree other trees others} :
      Renamed tree other → RenamedAll trees others →
      RenamedAll (tree :: trees) (other :: others)

end

/-- The text of a name makes no difference to what the alternative matches or to what comes of it:
all names have one action, punctuation is none, and the action of a sequence reads no text. -/
def IgnoresNames : Alternative Action → Prop
  | .terminal kind action => kind = .charSequence → action = .name
  | .literal text => text ∈ [".", "=", ",", "(", ")"] ∨ text = "-"
  | .sequence _ action => action ∉ [.sign, .number, .die]

instance : DecidablePred IgnoresNames
  | .terminal _ _ => inferInstanceAs (Decidable (_ → _))
  | .literal _ => inferInstanceAs (Decidable (_ ∨ _))
  | .sequence _ _ => inferInstanceAs (Decidable (_ ∉ _))

theorem ignoresNames_of_mem {id : RuleId} {rule : Rule Action} {alternative : Alternative Action}
    (known : grammar.rule? id = some rule) (member : alternative ∈ rule.alternatives) :
    IgnoresNames alternative := by
  have all : ∀ rule ∈ grammar.rules, ∀ alternative ∈ rule.alternatives,
      IgnoresNames alternative := by decide
  exact all rule (List.mem_of_getElem? known) alternative member

theorem exists_getElem?_of_renames {ts others : List Token} (renames : List.Forall₂ Renames ts others)
    {place : Nat} {token : Token} (found : ts[place]? = some token) :
    ∃ other, others[place]? = some other ∧ Renames token other := by
  obtain ⟨inside, rfl⟩ := List.getElem?_eq_some_iff.1 found
  have insideToo := renames.length_eq ▸ inside
  exact ⟨others[place], List.getElem?_eq_getElem insideToo, renames.get inside insideToo⟩

/-- Punctuation and the minus sign are no names. -/
theorem Renames.eq_of_text {token other : Token} (renames : Renames token other)
    (lexical : Lexical token) (mark : token.text ∈ [".", "=", ",", "(", ")"] ∨ token.text = "-") :
    other = token := by
  cases renames with
  | name =>
    rcases mark with mark | mark
    · cases lexical.punctuation mark
    · cases lexical.minus mark
  | fixed => rfl

mutual

/-- What a rule matches, it matches with other names too. -/
theorem exists_renamed {ts others : List Token} (renames : List.Forall₂ Renames ts others)
    (lexical : ∀ token ∈ ts, Lexical token) {id : RuleId} {start stop : Nat} {tree : Tree Action} :
    grammar.Justified ts id start stop tree →
      ∃ other, grammar.Justified others id start stop other ∧ Renamed tree other
  | .terminal known member found kind => by
    obtain ⟨other, foundToo, renames⟩ := exists_getElem?_of_renames renames found
    cases renames with
    | name letters =>
      cases ignoresNames_of_mem known member kind.symm
      exact ⟨_, .terminal known member foundToo kind, .name⟩
    | fixed => exact ⟨_, .terminal known member foundToo kind, .leaf⟩
  | .literal known member found text => by
    obtain ⟨other, foundToo, renames⟩ := exists_getElem?_of_renames renames found
    subst text
    have same := renames.eq_of_text (lexical _ (List.mem_of_getElem? found))
      (ignoresNames_of_mem known member)
    subst same
    exact ⟨_, .literal known member foundToo rfl, .literal⟩
  | .sequence known member tiled => by
    obtain ⟨trees, tiledToo, renamed⟩ := exists_renamedAll renames lexical tiled
    exact ⟨_, .sequence known member tiledToo, .branch (ignoresNames_of_mem known member) renamed⟩

theorem exists_renamedAll {ts others : List Token} (renames : List.Forall₂ Renames ts others)
    (lexical : ∀ token ∈ ts, Lexical token) {parts : List RuleId} {start stop : Nat}
    {trees : List (Tree Action)} : grammar.Tiled ts parts start stop trees →
      ∃ trees', grammar.Tiled others parts start stop trees' ∧ RenamedAll trees trees'
  | .nil => ⟨[], .nil, .nil⟩
  | .cons first less rest => by
    obtain ⟨other, firstToo, renamed⟩ := exists_renamed renames lexical first
    obtain ⟨trees, restToo, renamedAll⟩ := exists_renamedAll renames lexical rest
    exact ⟨_, .cons firstToo less restToo, .cons renamed renamedAll⟩

end

theorem Renamed.isLiteral_eq {tree other : Tree Action} (renamed : Renamed tree other) :
    other.isLiteral = tree.isLiteral := by
  cases renamed <;> rfl

mutual

theorem Renamed.size_eq {tree other : Tree Action} : Renamed tree other → other.size = tree.size
  | .name | .leaf | .literal => rfl
  | .branch _ all => all.totalSize_eq

theorem RenamedAll.totalSize_eq {trees others : List (Tree Action)} :
    RenamedAll trees others → Tree.totalSize others = Tree.totalSize trees
  | .nil => rfl
  | .cons first rest => by
    rw [Tree.totalSize, Tree.totalSize, first.size_eq, rest.totalSize_eq]

end

mutual

theorem Renamed.layout_eq {tree other : Tree Action} (depth start : Nat) :
    Renamed tree other → other.layout depth start = tree.layout depth start
  | .name | .leaf | .literal => rfl
  | .branch _ all => by
    rw [Tree.layout, Tree.layout, all.totalSize_eq, all.layoutOf_eq]

theorem RenamedAll.layoutOf_eq {trees others : List (Tree Action)} (depth start : Nat) :
    RenamedAll trees others → Tree.layoutOf depth start others = Tree.layoutOf depth start trees
  | .nil => rfl
  | .cons first rest => by
    rw [Tree.layoutOf, Tree.layoutOf, first.isLiteral_eq, first.layout_eq, first.size_eq,
      rest.layoutOf_eq]

end

section Evaluation

variable {σ : Type} [Roller σ]

/-- Only the actions of leaves look at the text of their node. -/
theorem run_eq_of_inner {action : Action} (inner : action ∉ [.sign, .number, .die])
    (node other : Tree Action) (operands : List (RollM σ Values)) :
    action.run other operands = action.run node operands := by
  cases action with
  | sign | number | die => simp at inner
  | name | same | scale | combine | negate | rounds | assign | list => rfl

mutual

theorem Renamed.evaluate_eq {tree other : Tree Action} :
    Renamed tree other → (evaluate other : RollM σ Values) = evaluate tree
  | .name | .leaf | .literal => rfl
  | .branch inner all => by
    simp only [evaluate, Tree.evaluate, all.evaluateOf_eq]
    exact run_eq_of_inner inner ..

theorem RenamedAll.evaluateOf_eq {trees others : List (Tree Action)} :
    RenamedAll trees others →
      (Tree.evaluateOf Action.run others : List (RollM σ Values)) = Tree.evaluateOf Action.run trees
  | .nil => rfl
  | @RenamedAll.cons tree other _ _ first rest => by
    have firstSame : (other.evaluate Action.run : RollM σ Values) = tree.evaluate Action.run :=
      first.evaluate_eq
    rw [Tree.evaluateOf, Tree.evaluateOf, first.isLiteral_eq, firstSame, rest.evaluateOf_eq]

end

end Evaluation

/-! ## Assignments without targets -/

mutual

/-- The tokens of the tree but for the targets of its assignments: each path before an equals sign
is left out, and the sign too. -/
def withoutTargets : Tree Action → List Token
  | .leaf _ token => [token]
  | .literal token => [token]
  | .branch .assign [_, _, value] => withoutTargets value
  | .branch _ parts => withoutTargetsOf parts

def withoutTargetsOf : List (Tree Action) → List Token
  | [] => []
  | tree :: rest => withoutTargets tree ++ withoutTargetsOf rest

end

/-- Words without an equals sign are left as they are. -/
theorem Derives.withoutTargets_eq {X : Nonterminal} {tree : Tree Action}
    (derivation : Derives X tree) (barred : "=" ∈ X.barred) :
    withoutTargets tree = tree.tokens := by
  induction derivation with
  | plusMinusOp | multDivOp | word | name | number | die => rfl
  | reference _ part | operand _ part | single _ part | nested _ _ _ part | negate _ _ part =>
    have same := part (by simp [Nonterminal.barred])
    simp [withoutTargets, withoutTargetsOf, Tree.tokens, Tree.tokensOf, same]
  | rounds _ _ first second | dotted _ _ _ first second =>
    have firstSame := first (by simp [Nonterminal.barred])
    have secondSame := second (by simp [Nonterminal.barred])
    simp [withoutTargets, withoutTargetsOf, Tree.tokens, Tree.tokensOf, firstSame, secondSame]
  | scale _ _ _ first sign second | combine _ _ _ first sign second =>
    have firstSame := first (by simp [Nonterminal.barred])
    have signSame := sign (by simp [Nonterminal.barred])
    have secondSame := second (by simp [Nonterminal.barred])
    simp [withoutTargets, withoutTargetsOf, Tree.tokens, Tree.tokensOf, firstSame, signSame,
      secondSame]
  | assign | value | list | only => simp [Nonterminal.barred] at barred

/-- The second tree has the tokens that are left of the first one, derives as that does, and is
worth the same. -/
structure Strips (X : Nonterminal) (tree stripped : Tree Action) : Prop where
  derives : Derives X stripped
  tokens_eq : stripped.tokens = withoutTargets tree
  sublist : stripped.tokens.Sublist tree.tokens
  evaluate_eq (σ : Type) [Roller σ] : (evaluate stripped : RollM σ Values) = evaluate tree

theorem Derives.exists_strips_assignment {tree : Tree Action}
    (derivation : Derives .assignment tree) : ∃ stripped, Strips .assignment tree stripped := by
  cases derivation with
  | assign path text value =>
    refine ⟨_, .value value, ?_, ?_, ?_⟩
    · rw [withoutTargets, Tree.tokens_one, value.withoutTargets_eq (by decide)]
    · rw [Tree.tokens_one, Tree.tokens_three]
      exact (List.sublist_append_right ..).trans (List.sublist_append_right ..)
    · intro σ _
      rw [evaluate_same value.isLiteral_eq_false,
        evaluate_assign _ path.isLiteral_eq_false value.isLiteral_eq_false]
  | value value =>
    refine ⟨_, .value value, ?_, List.Sublist.refl _, fun _ _ => rfl⟩
    simp [withoutTargets, withoutTargetsOf, Tree.tokens_one, value.withoutTargets_eq (by decide)]

theorem Derives.exists_strips {tree : Tree Action} (derivation : Derives .expr tree) :
    ∃ stripped, Strips .expr tree stripped := by
  generalize named : Nonterminal.expr = X at derivation ⊢
  induction derivation with
  | list front text last frontStrips _ =>
    obtain ⟨first, firstStrips⟩ := frontStrips named
    obtain ⟨second, secondStrips⟩ := last.exists_strips_assignment
    refine ⟨_, .list firstStrips.derives text secondStrips.derives, ?_, ?_, ?_⟩
    · simp [withoutTargets, withoutTargetsOf, Tree.tokens, Tree.tokensOf, firstStrips.tokens_eq,
        secondStrips.tokens_eq]
    · rw [Tree.tokens_three, Tree.tokens_three]
      exact firstStrips.sublist.append (secondStrips.sublist.append_left _)
    · intro σ _
      rw [evaluate_list _ firstStrips.derives.isLiteral_eq_false
          secondStrips.derives.isLiteral_eq_false,
        evaluate_list _ front.isLiteral_eq_false last.isLiteral_eq_false, firstStrips.evaluate_eq,
        secondStrips.evaluate_eq]
  | only last _ =>
    obtain ⟨other, strips⟩ := last.exists_strips_assignment
    refine ⟨_, .only strips.derives, ?_, ?_, ?_⟩
    · simp [withoutTargets, withoutTargetsOf, Tree.tokens_one, strips.tokens_eq]
    · rw [Tree.tokens_one, Tree.tokens_one]
      exact strips.sublist
    · intro σ _
      rw [evaluate_same strips.derives.isLiteral_eq_false, evaluate_same last.isLiteral_eq_false,
        strips.evaluate_eq]
  | _ => cases named

theorem exists_parse_of_renames {ts others : List Token} {tree : Tree Action}
    (justified : grammar.Justified ts Nonterminal.expr.place 0 ts.length tree)
    (renames : List.Forall₂ Renames ts others) (lexical : ∀ token ∈ ts, Lexical token) :
    ∃ other, (grammar.parse others).found = some ⟨0, other⟩ ∧ other.tokens = others ∧
      Renamed tree other := by
  obtain ⟨other, justifiedToo, renamed⟩ := exists_renamed renames lexical justified
  have derivation : Derives .expr other := (reads_of_justified justifiedToo).derives .expr rfl
  have tokens_eq : other.tokens = others := by
    rw [justifiedToo.tokens_eq, renames.length_eq, stretch, List.take_length, List.drop_zero]
  have parsed := parse_of_derives derivation (tokens_eq ▸ lexical_of_renames renames lexical)
  rw [tokens_eq] at parsed
  exact ⟨other, parsed, tokens_eq, renamed⟩

theorem exists_parse_of_strips {tree : Tree Action} (derivation : Derives .expr tree)
    (lexical : ∀ token ∈ tree.tokens, Lexical token) :
    ∃ other, (grammar.parse (withoutTargets tree)).found = some ⟨0, other⟩ ∧
      other.tokens = withoutTargets tree ∧ WorthSame other tree := by
  obtain ⟨other, strips⟩ := derivation.exists_strips
  have parsed := parse_of_derives strips.derives fun token member =>
    lexical token (strips.sublist.subset member)
  rw [strips.tokens_eq] at parsed
  exact ⟨other, parsed, strips.tokens_eq, worthSame_of_evaluate_eq strips.evaluate_eq⟩

/-- When all tokens of a text are parsed, other names give a parse of the same shape, and without
the targets of all assignments the tokens are again parsed to the last one. Either is worth the
same in every context, whatever was rolled in it before. -/
theorem parse_inert {text : String} {ts : List Token} {found : Match Action}
    (cut : tokenize text = .ok ts) (parsed : (grammar.parse ts).found = some found)
    (whole : found.tree.tokens = ts) :
    (∀ others, List.Forall₂ Renames ts others →
      ∃ other, (grammar.parse others).found = some ⟨found.start, other⟩ ∧ other.tokens = others ∧
        other.layout 0 found.start = found.tree.layout 0 found.start ∧
        WorthSame other found.tree) ∧
    ∃ other, (grammar.parse (withoutTargets found.tree)).found = some ⟨0, other⟩ ∧
      other.tokens = withoutTargets found.tree ∧ WorthSame other found.tree := by
  have lexical := lexical_of_mem cut
  obtain ⟨answers, reading, found_eq⟩ := exists_reading cut
  have answered := (found_eq .expr).symm.trans parsed
  obtain ⟨derivation, occurs⟩ := reading.derives le_rfl answered
  have start_eq : found.start = 0 := by
    have length_eq := occurs.length_eq
    rw [whole] at length_eq
    omega
  rw [start_eq]
  constructor
  · intro others renames
    have justified := reading.plain.justified grammar_acyclic le_rfl answered
    rw [start_eq] at justified
    obtain ⟨other, parsed, tokens_eq, renamed⟩ := exists_parse_of_renames justified renames lexical
    exact ⟨other, parsed, tokens_eq, renamed.layout_eq 0 0,
      worthSame_of_evaluate_eq fun _ => renamed.evaluate_eq⟩
  · exact exists_parse_of_strips derivation (whole ▸ lexical)

/-- A name may even be a `d`, and a path may be assigned to. -/
theorem parse_inert_path :
    let tree : Tree Action := .branch .same [.branch .assign [
      .branch .name [.leaf .name ⟨.charSequence, "a"⟩, .literal ⟨.literal, "."⟩,
        .leaf .name ⟨.charSequence, "b"⟩],
      .literal ⟨.literal, "="⟩,
      .branch .combine [.branch .same [.branch .same [.leaf .die ⟨.dice, "d6"⟩]],
        .leaf .sign ⟨.arithOp, "-"⟩,
        .branch .same [.branch .same [.leaf .name ⟨.charSequence, "c"⟩]]]]]
    let others : List Token := [⟨.charSequence, "x"⟩, ⟨.literal, "."⟩, ⟨.charSequence, "long"⟩,
      ⟨.literal, "="⟩, ⟨.dice, "d6"⟩, ⟨.arithOp, "-"⟩, ⟨.charSequence, "d"⟩]
    let rest : List Token := [⟨.dice, "d6"⟩, ⟨.arithOp, "-"⟩, ⟨.charSequence, "c"⟩]
    tokenize "a.b = d6 - c" = .ok tree.tokens ∧
    (grammar.parse tree.tokens).found = some ⟨0, tree⟩ ∧
    List.Forall₂ Renames tree.tokens others ∧
    (∃ other, (grammar.parse others).found = some ⟨0, other⟩ ∧ other.tokens = others ∧
      other.layout 0 0 = tree.layout 0 0 ∧ WorthSame other tree) ∧
    ∃ other, (grammar.parse rest).found = some ⟨0, other⟩ ∧ other.tokens = rest ∧
      WorthSame other tree := by
  intro tree others rest
  have cut : tokenize "a.b = d6 - c" = .ok tree.tokens := by decide +kernel
  have derivation : Derives .expr tree :=
    .only (.assign (.dotted (.word rfl) rfl (.name rfl)) rfl
      (.combine (.single (.operand (.die rfl))) (.plusMinusOp rfl)
        (.operand (.reference (.word rfl)))))
  have parsed : (grammar.parse tree.tokens).found = some ⟨0, tree⟩ :=
    parse_of_derives derivation (lexical_of_mem cut)
  have renames : List.Forall₂ Renames tree.tokens others :=
    .cons (.name (by decide)) <| .cons (.fixed (by decide)) <|
    .cons (.name (by decide)) <| .cons (.fixed (by decide)) <|
    .cons (.fixed (by decide)) <| .cons (.fixed (by decide)) <|
    .cons (.name (by decide)) .nil
  have inert := parse_inert cut parsed rfl
  exact ⟨cut, parsed, renames, inert.1 others renames, inert.2⟩

end DiceCalculator.Dice
