import DiceCalculator.Dice.Grammar
import DiceCalculator.Proofs.Matching.Invariant
import Mathlib.Data.Fintype.Pigeonhole
import Mathlib.Data.Prod.Lex
import Mathlib.Logic.Relation
import Mathlib.Order.WellFounded

/-!
# Matching as plain ordered choice

Without a chart, a rule comes to the first of its alternatives that matches, and
the attempts that its sequences make come to their answers in the same way. If
no rule comes back to itself by way of last parts, an attempt makes others only
at an earlier place, or at the same place for a rule further down. So this
recursion has exactly one solution, no attempt is under way when it is made
again, and the chart remembers nothing but what the recursion gives.
-/

namespace DiceCalculator

open Matcher

variable {α : Type}

/-- The last part of a sequence. -/
def Alternative.lastPart? : Alternative α → Option RuleId
  | .sequence parts _ => parts.getLast?
  | _ => none

namespace Grammar

/-- The rule has a sequence that ends with the part. -/
def LastPart (grammar : Grammar α) (part id : RuleId) : Prop :=
  ∃ rule alternative, grammar.rule? id = some rule ∧ alternative ∈ rule.alternatives ∧
    alternative.lastPart? = some part

/-- No rule comes back to itself by way of last parts. -/
def Acyclic (grammar : Grammar α) : Prop :=
  ∀ id, ¬Relation.TransGen grammar.LastPart id id

/-- Ordered choice at one attempt, when the answers of the attempts it makes are given. -/
def choose (grammar : Grammar α) (tokens : List Token) (answers : Attempt → Option (Match α))
    (key : Attempt) : Option (Match α) :=
  match grammar.rule? key.rule with
  | none => none
  | some rule => chooseFirst answers tokens key.stop rule.alternatives

/-- The answers are those of ordered choice, all the way down. -/
def Plain (grammar : Grammar α) (tokens : List Token) (answers : Attempt → Option (Match α)) :
    Prop :=
  ∀ key, answers key = grammar.choose tokens answers key

/-- The one attempt is at an earlier place, or at the same place and reached by last parts. -/
def Below (grammar : Grammar α) (next key : Attempt) : Prop :=
  next.stop < key.stop ∨
    next.stop = key.stop ∧ Relation.TransGen grammar.LastPart next.rule key.rule

variable {grammar : Grammar α} {tokens : List Token}

theorem acyclic_of_rank (rank : RuleId → Nat)
    (less : ∀ part id, grammar.LastPart part id → rank part < rank id) : grammar.Acyclic := by
  have descends {part id : RuleId} (path : Relation.TransGen grammar.LastPart part id) :
      rank part < rank id := by
    induction path with
    | single step => exact less _ _ step
    | tail _ step inductionHypothesis => exact Nat.lt_trans inductionHypothesis (less _ _ step)
  exact fun id cycle => (descends cycle).false

/-- Among finitely many rules a path of last parts without end would come back to itself. -/
theorem Acyclic.wellFounded (acyclic : grammar.Acyclic) : WellFounded grammar.LastPart := by
  rw [wellFounded_iff_isEmpty_descending_chain]
  constructor
  rintro ⟨path, step⟩
  have known (n : Nat) : (path n).index < grammar.rules.length := by
    obtain ⟨rule, _, found, _⟩ := step n
    exact (List.getElem?_eq_some_iff.1 found).1
  have descends {m n : Nat} (less : m < n) :
      Relation.TransGen grammar.LastPart (path n) (path m) := by
    induction n, less using Nat.le_induction with
    | base => exact .single (step m)
    | succ n _ inductionHypothesis => exact .head (step n) inductionHypothesis
  obtain ⟨m, n, different, same⟩ := Finite.exists_ne_map_eq_of_infinite
    fun n => (⟨(path n).index, known n⟩ : Fin grammar.rules.length)
  have equal : path m = path n := congrArg RuleId.mk (Fin.mk.inj same)
  rcases Nat.lt_or_gt_of_ne different with less | less
  · have cycle := descends less
    rw [equal] at cycle
    exact acyclic _ cycle
  · have cycle := descends less
    rw [equal] at cycle
    exact acyclic _ cycle

theorem Acyclic.wellFounded_below (acyclic : grammar.Acyclic) : WellFounded grammar.Below := by
  have order : WellFounded (Prod.Lex (· < ·) (Relation.TransGen grammar.LastPart)) :=
    WellFounded.prod_lex Nat.lt_wfRel.wf acyclic.wellFounded.transGen
  refine Subrelation.wf ?_ (InvImage.wf (fun key : Attempt => (key.stop, key.rule)) order)
  intro next key below
  exact Prod.lex_def.2 below

theorem Below.trans {first second third : Attempt} (lower : grammar.Below first second)
    (upper : grammar.Below second third) : grammar.Below first third := by
  rcases lower with less | ⟨same, path⟩ <;> rcases upper with less' | ⟨same', path'⟩
  · exact .inl (less.trans less')
  · exact .inl (same' ▸ less)
  · exact .inl (same ▸ less')
  · exact .inr ⟨same.trans same', path.trans path'⟩

theorem below_of_choiceReach {answered : Attempt → Option (Match α) → Prop} {key next : Attempt}
    {rule : Rule α} (known : grammar.rule? key.rule = some rule)
    (reached : ChoiceReach answered tokens key.stop rule.alternatives next) :
    grammar.Below next key := by
  obtain ⟨parts, action, member, ⟨last, same⟩ | ⟨_, less⟩⟩ := reached.place
  · exact .inr ⟨same, .single ⟨rule, .sequence parts action, known, member, last⟩⟩
  · exact .inl less

theorem below_underWay {answered : Attempt → Option (Match α) → Prop} {underWay : List Attempt}
    {key next : Attempt} {rule : Rule α} (below : ∀ above ∈ underWay, grammar.Below key above)
    (known : grammar.rule? key.rule = some rule)
    (reached : ChoiceReach answered tokens key.stop rule.alternatives next) :
    ∀ above ∈ key :: underWay, grammar.Below next above := by
  intro above member
  have under := below_of_choiceReach known reached
  rcases List.mem_cons.1 member with rfl | member
  · exact under
  · exact under.trans (below above member)

theorem choose_congr {answers others : Attempt → Option (Match α)} {key : Attempt}
    (agree : ∀ next, grammar.Below next key → answers next = others next) :
    grammar.choose tokens answers key = grammar.choose tokens others key := by
  cases known : grammar.rule? key.rule with
  | none => simp only [choose, known]
  | some rule =>
    simp only [choose, known]
    refine (choiceOutcome_iff.1 ((choiceOutcome_iff.2 rfl).mono ?_)).symm
    intro next answer reached answered
    rw [← agree next (below_of_choiceReach known reached)]
    exact answered

theorem Plain.unique (acyclic : grammar.Acyclic) {answers others : Attempt → Option (Match α)}
    (plain : grammar.Plain tokens answers) (alsoPlain : grammar.Plain tokens others) :
    answers = others := by
  funext key
  induction key using acyclic.wellFounded_below.induction with
  | h key inductionHypothesis =>
    calc answers key = grammar.choose tokens answers key := plain key
      _ = grammar.choose tokens others key := choose_congr inductionHypothesis
      _ = others key := (alsoPlain key).symm

theorem exists_plain (acyclic : grammar.Acyclic) (tokens : List Token) :
    ∃ answers, grammar.Plain tokens answers := by
  classical
  let step (key : Attempt) (answers : ∀ next, grammar.Below next key → Option (Match α)) :
      Option (Match α) :=
    grammar.choose tokens
      (fun next => if below : grammar.Below next key then answers next below else none) key
  refine ⟨acyclic.wellFounded_below.fix step, ?_⟩
  intro key
  rw [acyclic.wellFounded_below.fix_eq]
  apply choose_congr
  intro next below
  simp [below]

end Grammar

/-- In an acyclic grammar every answer is that of the recursion, because the attempts under way
are all above the one that is made. -/
def Matcher.Invariant.plain {grammar : Grammar α} (acyclic : grammar.Acyclic) {tokens : List Token}
    {answers : Attempt → Option (Match α)} (plain : grammar.Plain tokens answers)
    (remembering : Bool) : Invariant grammar tokens remembering where
  allowed underWay key := ∀ above ∈ underWay, grammar.Below key above
  answered _ key answer := answers key = answer
  kept key answer := answers key = answer
  noted event := ∀ rule stop, event ≠ .reentered rule stop
  keep _ _ _ answer_ok := answer_ok
  recalled _ _ _ kept := kept
  reenter below inside :=
    absurd (below _ inside) (acyclic.wellFounded_below.asymmetric _ _ · (below _ inside))
  missing _ _ missing := by simp [plain _, Grammar.choose, missing]
  descend below _ known reached := Grammar.below_underWay below known reached
  conclude := by
    intro underWay key rule answer _ _ known outcome
    refine ⟨?_, by cases answer <;> simp [eventOf]⟩
    rw [plain key, Grammar.choose, known]
    exact choiceOutcome_iff.1 outcome
  stall _ _ _ := by simp

/-- How far a rule of dice expressions is from a single token, going by last parts. -/
def Dice.rank (id : RuleId) : Nat :=
  [0, 0, 1, 0, 2, 3, 4, 5, 6].getD id.index 0

theorem Dice.grammar_acyclic : Dice.grammar.Acyclic := by
  apply Grammar.acyclic_of_rank Dice.rank
  rintro part ⟨index⟩ ⟨rule, alternative, known, member, last⟩
  have ranked : ∀ index : Fin Dice.grammar.rules.length,
      ∀ alternative ∈ Dice.grammar.rules[index].alternatives,
        ∀ part ∈ alternative.lastPart?, Dice.rank part < Dice.rank ⟨index⟩ := by
    decide
  obtain ⟨inside, rfl⟩ := List.getElem?_eq_some_iff.1 known
  exact ranked ⟨index, inside⟩ alternative member part last

namespace Grammar

variable {grammar : Grammar α} {tokens : List Token}

theorem answer?_eq_plain (acyclic : grammar.Acyclic) {answers : Attempt → Option (Match α)}
    (plain : grammar.Plain tokens answers) (remembering : Bool) {key : Attempt}
    (within : key.stop ≤ tokens.length) :
    grammar.answer? remembering tokens key = some (answers key) := by
  obtain ⟨answer, chart, run, rfl, _⟩ :=
    (Invariant.plain acyclic plain remembering).exists_run within (by simp [Invariant.plain])
  simp [answer?, run]

/-- With a chart that remembers answers and with one that does not, matching in an acyclic grammar
comes to the answer of plain ordered choice, of which there is exactly one. -/
theorem exists_plain_answer (grammar : Grammar α) (acyclic : grammar.Acyclic)
    (tokens : List Token) :
    ∃ answers, grammar.Plain tokens answers ∧
      (∀ others, grammar.Plain tokens others → others = answers) ∧
      ∀ remembering key, key.stop ≤ tokens.length →
        grammar.answer? remembering tokens key = some (answers key) := by
  obtain ⟨answers, plain⟩ := exists_plain acyclic tokens
  refine ⟨answers, plain, fun others alsoPlain => alsoPlain.unique acyclic plain, ?_⟩
  intro remembering key within
  exact answer?_eq_plain acyclic plain remembering within

/-- The grammar of dice expressions is an instance. -/
theorem exists_plain_answer_dice :
    Dice.grammar.Acyclic ∧
    ∃ answers, Dice.grammar.Plain [⟨.number, "3"⟩, ⟨.dice, "d6"⟩] answers ∧
      (∀ others, Dice.grammar.Plain [⟨.number, "3"⟩, ⟨.dice, "d6"⟩] others → others = answers) ∧
      ∀ remembering key, key.stop ≤ 2 →
        Dice.grammar.answer? remembering [⟨.number, "3"⟩, ⟨.dice, "d6"⟩] key =
          some (answers key) :=
  ⟨Dice.grammar_acyclic, exists_plain_answer Dice.grammar Dice.grammar_acyclic _⟩

end Grammar

end DiceCalculator
