import DiceCalculator.Proofs.Matching.Invariant
import Mathlib.Tactic.Common

/-!
# Trees as derivations

A tree that matching finds is justified by one alternative of its rule, and so
are its parts in turn: the parts of a sequence are justified trees of the rules
named there, and their stretches of the token list stand side by side, none of
them empty. This holds of every grammar. Answers out of the chart are no
exception, because the chart keeps justified trees only.
-/

namespace DiceCalculator

variable {α β : Type}

/-- The elements from the place `start` up to the place `stop`. -/
def stretch (list : List β) (start stop : Nat) : List β :=
  (list.take stop).drop start

theorem length_stretch {list : List β} {start stop : Nat} (within : stop ≤ list.length) :
    (stretch list start stop).length = stop - start := by
  simp [stretch, within]

theorem stretch_self (list : List β) (stop : Nat) : stretch list stop stop = [] := by
  apply List.drop_eq_nil_of_le
  exact List.length_take_le ..

theorem stretch_append {list : List β} {start middle stop : Nat} (first : start ≤ middle)
    (second : middle ≤ stop) :
    stretch list start middle ++ stretch list middle stop = stretch list start stop := by
  have whole : stop - start = (middle - start) + (stop - middle) := by omega
  simp only [stretch, List.drop_take]
  rw [whole, List.take_add, List.drop_drop, Nat.add_sub_cancel' first]

theorem stretch_succ {list : List β} {start : Nat} {element : β}
    (found : list[start]? = some element) : stretch list start (start + 1) = [element] := by
  have inside := (List.getElem?_eq_some_iff.1 found).1
  rw [stretch, List.take_add_one, List.drop_append_of_le_length (by simp; omega)]
  simp [found]

namespace Grammar

mutual

/-- The tree is a match of the rule on the tokens from `start` to `stop`. -/
inductive Justified (grammar : Grammar α) (tokens : List Token) :
    RuleId → Nat → Nat → Tree α → Prop where
  | terminal {id rule kind action start token} :
      grammar.rule? id = some rule →
      .terminal kind action ∈ rule.alternatives →
      tokens[start]? = some token →
      token.kind = kind →
      Justified grammar tokens id start (start + 1) (.leaf action token)
  | literal {id rule text start token} :
      grammar.rule? id = some rule →
      .literal text ∈ rule.alternatives →
      tokens[start]? = some token →
      token.text = text →
      Justified grammar tokens id start (start + 1) (.literal token)
  | sequence {id rule parts action start stop trees} :
      grammar.rule? id = some rule →
      .sequence parts action ∈ rule.alternatives →
      Tiled grammar tokens parts start stop trees →
      Justified grammar tokens id start stop (.branch action trees)

/-- The trees are matches of the rules one after the other, each of at least one token. -/
inductive Tiled (grammar : Grammar α) (tokens : List Token) :
    List RuleId → Nat → Nat → List (Tree α) → Prop where
  | nil {stop} : Tiled grammar tokens [] stop stop []
  | cons {part rest start middle stop tree trees} :
      Justified grammar tokens part start middle tree →
      start < middle →
      Tiled grammar tokens rest middle stop trees →
      Tiled grammar tokens (part :: rest) start stop (tree :: trees)

end

variable {grammar : Grammar α} {tokens : List Token}

theorem Justified.exists_rule {id : RuleId} {start stop : Nat} {tree : Tree α} :
    grammar.Justified tokens id start stop tree → ∃ rule, grammar.rule? id = some rule
  | .terminal known .. | .literal known .. | .sequence known .. => ⟨_, known⟩

mutual

theorem Justified.start_le {id : RuleId} {start stop : Nat} {tree : Tree α} :
    grammar.Justified tokens id start stop tree → start ≤ stop
  | .terminal .. => Nat.le_succ _
  | .literal .. => Nat.le_succ _
  | .sequence _ _ tiled => tiled.start_le

theorem Tiled.start_le {parts : List RuleId} {start stop : Nat} {trees : List (Tree α)} :
    grammar.Tiled tokens parts start stop trees → start ≤ stop
  | .nil => Nat.le_refl _
  | .cons _ less rest => less.le.trans rest.start_le

end

mutual

theorem Justified.tokens_eq {id : RuleId} {start stop : Nat} {tree : Tree α} :
    grammar.Justified tokens id start stop tree → tree.tokens = stretch tokens start stop
  | .terminal _ _ found _ => (stretch_succ found).symm
  | .literal _ _ found _ => (stretch_succ found).symm
  | .sequence _ _ tiled => tiled.tokens_eq

theorem Tiled.tokens_eq {parts : List RuleId} {start stop : Nat} {trees : List (Tree α)} :
    grammar.Tiled tokens parts start stop trees → Tree.tokensOf trees = stretch tokens start stop
  | .nil => (stretch_self ..).symm
  | .cons first less rest => by
    rw [Tree.tokensOf, first.tokens_eq, rest.tokens_eq, stretch_append less.le rest.start_le]

end

/-- The tree is made as the alternative says, of parts that have the property. -/
inductive Builds (property : RuleId → Tree α → Prop) : Alternative α → Tree α → Prop where
  | terminal {kind action token} :
      token.kind = kind → Builds property (.terminal kind action) (.leaf action token)
  | literal {text token} : token.text = text → Builds property (.literal text) (.literal token)
  | sequence {parts action trees} :
      List.Forall₂ property parts trees →
      Builds property (.sequence parts action) (.branch action trees)

mutual

/-- A property that passes from the parts to the tree holds of all that is justified. -/
theorem Justified.of_closed {property : RuleId → Tree α → Prop}
    (closed : ∀ id rule alternative tree, grammar.rule? id = some rule →
      alternative ∈ rule.alternatives → Builds property alternative tree → property id tree)
    {id : RuleId} {start stop : Nat} {tree : Tree α} :
    grammar.Justified tokens id start stop tree → property id tree
  | .terminal known member _ fits => closed _ _ _ _ known member (.terminal fits)
  | .literal known member _ fits => closed _ _ _ _ known member (.literal fits)
  | .sequence known member tiled => closed _ _ _ _ known member (.sequence (tiled.of_closed closed))

theorem Tiled.of_closed {property : RuleId → Tree α → Prop}
    (closed : ∀ id rule alternative tree, grammar.rule? id = some rule →
      alternative ∈ rule.alternatives → Builds property alternative tree → property id tree)
    {parts : List RuleId} {start stop : Nat} {trees : List (Tree α)} :
    grammar.Tiled tokens parts start stop trees → List.Forall₂ property parts trees
  | .nil => .nil
  | .cons first _ rest => .cons (first.of_closed closed) (rest.of_closed closed)

end

end Grammar

namespace Matcher

open Grammar

variable {grammar : Grammar α} {tokens : List Token} {answered : Attempt → Option (Match α) → Prop}

theorem PartsOutcome.tiled {parts later : List RuleId} {start stop last : Nat}
    {trees all : List (Tree α)}
    (justified : ∀ key found, answered key (some found) →
      grammar.Justified tokens key.rule found.start key.stop found.tree)
    (outcome : PartsOutcome answered parts stop trees (some (start, all)))
    (tiled : grammar.Tiled tokens later stop last trees) :
    grammar.Tiled tokens (parts.reverse ++ later) start last all := by
  generalize asked : some (start, all) = result at outcome
  induction outcome generalizing later with
  | done =>
    cases asked
    exact tiled
  | failed => cases asked
  | tookNothing => cases asked
  | @took part earlier stop trees outcome found answer something _ inductionHypothesis =>
    have extended : grammar.Tiled tokens (part :: later) found.start last (found.tree :: trees) :=
      .cons (justified _ _ answer) something tiled
    simpa using inductionHypothesis extended asked

theorem ChoiceOutcome.justified {id : RuleId} {rule : Rule α} {stop : Nat} {found : Match α}
    (justified : ∀ key found, answered key (some found) →
      grammar.Justified tokens key.rule found.start key.stop found.tree)
    (known : grammar.rule? id = some rule)
    (outcome : ChoiceOutcome answered tokens stop rule.alternatives (some found)) :
    grammar.Justified tokens id found.start stop found.tree := by
  obtain ⟨alternative, member, chosen⟩ := outcome.exists_alternative
  generalize asked : some found = result at chosen
  cases chosen with
  | terminal =>
    obtain ⟨start, token, rfl, present, fits, rfl⟩ := terminalMatch_eq_some_iff.1 asked.symm
    exact .terminal known member present fits
  | literal =>
    obtain ⟨start, token, rfl, present, fits, rfl⟩ := literalMatch_eq_some_iff.1 asked.symm
    exact .literal known member present fits
  | sequence parts =>
    obtain ⟨⟨start, trees⟩, rfl, rfl⟩ := Option.map_eq_some_iff.1 asked.symm
    exact .sequence known member (by simpa using parts.tiled justified .nil)

/-- Answers are justified, and so is every match that is noted: it takes as many tokens as its
tree has, all of them from those before the place where it stops. -/
def Invariant.justifying (grammar : Grammar α) (tokens : List Token) (remembering : Bool) :
    Invariant grammar tokens remembering where
  allowed _ key := key.stop ≤ tokens.length
  answered _ key answer := ∀ found, answer = some found →
    grammar.Justified tokens key.rule found.start key.stop found.tree
  kept key answer := ∀ found, answer = some found →
    grammar.Justified tokens key.rule found.start key.stop found.tree
  noted event := ∀ rule length stop, event = .matched rule length stop →
    ∃ start tree, grammar.Justified tokens rule start stop tree ∧ tree.size = length ∧
      start + length = stop ∧ stop ≤ tokens.length
  keep _ _ _ answer_ok := answer_ok
  recalled _ _ _ kept := kept
  reenter _ _ := by simp
  missing _ _ _ := by simp
  descend within _ _ reached := reached.stop_le.trans within
  conclude := by
    intro underWay key rule answer within outside known outcome
    have answer_ok : ∀ found, answer = some found →
        grammar.Justified tokens key.rule found.start key.stop found.tree := by
      rintro found rfl
      exact outcome.justified (fun _ found answered => answered found rfl) known
    refine ⟨answer_ok, ?_⟩
    cases answer with
    | none => simp [eventOf]
    | some found =>
      rintro _ _ _ ⟨⟩
      have justified := answer_ok found rfl
      have size : found.tree.size = key.stop - found.start := by
        rw [← Tree.length_tokens, justified.tokens_eq, length_stretch within]
      exact ⟨found.start, found.tree, justified, size, Nat.add_sub_cancel' justified.start_le,
        within⟩
  stall _ _ _ := by simp

/-- Whatever the grammar, matching comes to an answer, and the tree it finds is a derivation
that tiles its stretch of the tokens. Each match on the way takes no more tokens than there are
before the place where it stops. -/
theorem runAt_justified (grammar : Grammar α) (tokens : List Token) (remembering : Bool)
    (key : Attempt) (within : key.stop ≤ tokens.length) :
    ∃ answer chart, grammar.runAt remembering tokens key = some (answer, chart) ∧
      (∀ found, answer = some found →
        found.start ≤ key.stop ∧
        found.tree.tokens = stretch tokens found.start key.stop ∧
        grammar.Justified tokens key.rule found.start key.stop found.tree) ∧
      ∀ rule length stop, .matched rule length stop ∈ chart.events →
        ∃ start tree, grammar.Justified tokens rule start stop tree ∧ tree.size = length ∧
          start + length = stop ∧ stop ≤ tokens.length := by
  obtain ⟨answer, chart, run, answer_ok, held⟩ :=
    (Invariant.justifying grammar tokens remembering).exists_run within within
  refine ⟨answer, chart, run, ?_, ?_⟩
  · intro found asked
    have justified := answer_ok found asked
    exact ⟨justified.start_le, justified.tokens_eq, justified⟩
  · intro rule length stop happened
    exact held.events _ happened rule length stop rfl

/-- A rule that begins with itself comes to its answer too. -/
theorem runAt_justified_selfish :
    let grammar : Grammar Nat := ⟨[⟨.expr, [.sequence [⟨0⟩] 0, .terminal .number 1]⟩], ⟨0⟩⟩
    let tokens : List Token := [⟨.number, "7"⟩]
    1 ≤ tokens.length ∧
    ∃ answer chart, grammar.runAt true tokens ⟨⟨0⟩, 1⟩ = some (answer, chart) ∧
      (∀ found, answer = some found →
        found.start ≤ 1 ∧
        found.tree.tokens = stretch tokens found.start 1 ∧
        grammar.Justified tokens ⟨0⟩ found.start 1 found.tree) ∧
      ∀ rule length stop, .matched rule length stop ∈ chart.events →
        ∃ start tree, grammar.Justified tokens rule start stop tree ∧ tree.size = length ∧
          start + length = stop ∧ stop ≤ tokens.length := by
  intro grammar tokens
  exact ⟨by decide, runAt_justified grammar tokens true ⟨⟨0⟩, 1⟩ (by decide)⟩

end Matcher

end DiceCalculator
