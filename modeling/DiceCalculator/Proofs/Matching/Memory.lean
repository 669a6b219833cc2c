import DiceCalculator.Proofs.Matching.OrderedChoice

/-!
# When remembered answers are right

The chart remembers one answer for a rule and a place. But the answer may hang
on the attempts under way: a rule that comes back to one of them fails there and
might match anywhere else. Remembering is right exactly as far as it does not.
`Consistent` says so of matching without memory: an attempt that is made twice
has the same answer both times, unless it is under way. In a consistent match
memory changes nothing, and it does change an answer in every other one once
the chart holds what was found before.
-/

namespace DiceCalculator

open Matcher

variable {α : Type}

namespace Grammar

/-- The answer without memory while other attempts are under way. -/
def answerUnder (grammar : Grammar α) (tokens : List Token) (underWay : List Attempt)
    (key : Attempt) : Option (Option (Match α)) :=
  ((attempt grammar tokens false (grammar.allowance tokens) key).run { underWay }).map Prod.fst

/-- The attempts that a match without memory makes, each with those under way. -/
inductive Tried (grammar : Grammar α) (tokens : List Token) (outermost : Attempt) :
    List Attempt → Attempt → Prop where
  | outermost : Tried grammar tokens outermost [] outermost
  | nested {underWay key rule next} :
      Tried grammar tokens outermost underWay key →
      key ∉ underWay →
      grammar.rule? key.rule = some rule →
      ChoiceReach (fun next answer => grammar.answerUnder tokens (key :: underWay) next = some answer)
        tokens key.stop rule.alternatives next →
      Tried grammar tokens outermost (key :: underWay) next

/-- The rule and the place of an attempt determine its answer throughout the match. -/
def Consistent (grammar : Grammar α) (tokens : List Token) (outermost : Attempt) : Prop :=
  ∀ first second key, grammar.Tried tokens outermost first key →
    grammar.Tried tokens outermost second key → key ∉ first → key ∉ second →
    grammar.answerUnder tokens first key = grammar.answerUnder tokens second key

/-- The answer was found in the match, without memory. -/
def FoundIn (grammar : Grammar α) (tokens : List Token) (outermost key : Attempt)
    (answer : Option (Match α)) : Prop :=
  ∃ underWay, grammar.Tried tokens outermost underWay key ∧ key ∉ underWay ∧
    grammar.answerUnder tokens underWay key = some answer

/-- Whatever the chart remembers of the match, each attempt comes to the answer that it has
without memory. -/
def Transparent (grammar : Grammar α) (tokens : List Token) (outermost : Attempt) : Prop :=
  ∀ underWay key, grammar.Tried tokens outermost underWay key → key ∉ underWay →
    ∀ chart : Chart α, chart.underWay = underWay →
      (∀ other answer, chart.answers[other]? = some answer →
        other ∉ underWay ∧ grammar.FoundIn tokens outermost other answer) →
      ((attempt grammar tokens true (grammar.allowance tokens) key).run chart).map Prod.fst =
        grammar.answerUnder tokens underWay key

/-- Ordered choice in which an attempt fails that is made while it is under way. The allowance
is for the depth. -/
def guarded (grammar : Grammar α) (tokens : List Token) :
    Nat → List Attempt → Attempt → Option (Match α)
  | 0, _, _ => none
  | allowance + 1, underWay, key =>
    if key ∈ underWay then none
    else grammar.choose tokens (guarded grammar tokens allowance (key :: underWay)) key

end Grammar

/-- Without memory an answer is that of guarded choice. -/
def Matcher.Invariant.forgetful (grammar : Grammar α) (tokens : List Token) :
    Invariant grammar tokens false where
  allowed underWay key := grammar.Stack tokens underWay ∧ key.stop ≤ tokens.length
  answered underWay key answer :=
    grammar.guarded tokens (grammar.allowance tokens + 1 - underWay.length) underWay key = answer
  kept _ _ := True
  noted _ := True
  keep := by simp
  recalled := by simp
  reenter := by
    rintro underWay key ⟨stack, _⟩ inside
    rw [Nat.succ_sub stack.length_le]
    simp [Grammar.guarded, inside]
  missing := by
    rintro underWay key ⟨stack, _⟩ outside missing
    rw [Nat.succ_sub stack.length_le]
    simp [Grammar.guarded, outside, Grammar.choose, missing]
  descend := by
    rintro underWay key rule next ⟨stack, within⟩ outside known reached
    exact ⟨stack.push outside known within, reached.stop_le.trans within⟩
  conclude := by
    rintro underWay key rule answer ⟨stack, _⟩ outside known outcome
    rw [List.length_cons, Nat.add_sub_add_right] at outcome
    rw [Nat.succ_sub stack.length_le, Grammar.guarded, if_neg outside, Grammar.choose, known]
    exact ⟨choiceOutcome_iff.1 outcome, trivial⟩
  stall := by simp

namespace Grammar

variable {grammar : Grammar α} {tokens : List Token} {underWay : List Attempt} {key : Attempt}

theorem answerUnder_eq_guarded (stack : grammar.Stack tokens underWay)
    (within : key.stop ≤ tokens.length) :
    grammar.answerUnder tokens underWay key =
      some (grammar.guarded tokens (grammar.allowance tokens + 1 - underWay.length) underWay key) := by
  have held : (Invariant.forgetful grammar tokens).Holds { underWay } :=
    ⟨by simp, by simp [Invariant.forgetful]⟩
  obtain ⟨answer, chart, run, _, rfl⟩ :=
    (Invariant.forgetful grammar tokens).keeps_attempt stack (Nat.le_add_right _ _) within
      ⟨stack, within⟩ _ ⟨rfl, held⟩
  simp [answerUnder, run]

/-- Without memory too an answer is the outcome of the alternatives. -/
theorem answerUnder_of_outcome {rule : Rule α} {answer : Option (Match α)}
    (stack : grammar.Stack tokens underWay) (within : key.stop ≤ tokens.length)
    (outside : key ∉ underWay) (known : grammar.rule? key.rule = some rule)
    (outcome : ChoiceOutcome
      (fun next answer => grammar.answerUnder tokens (key :: underWay) next = some answer)
      tokens key.stop rule.alternatives answer) :
    grammar.answerUnder tokens underWay key = some answer := by
  have guardedOutcome : ChoiceOutcome
      ((Invariant.forgetful grammar tokens).answered (key :: underWay)) tokens key.stop
        rule.alternatives answer := by
    refine outcome.mono fun next answer reached answered => ?_
    rw [answerUnder_eq_guarded (stack.push outside known within) (reached.stop_le.trans within)]
      at answered
    exact Option.some.inj answered
  rw [answerUnder_eq_guarded stack within]
  exact congrArg some
    ((Invariant.forgetful grammar tokens).conclude ⟨stack, within⟩ outside known guardedOutcome).1

theorem Tried.stack {outermost : Attempt} (within : outermost.stop ≤ tokens.length)
    (tried : grammar.Tried tokens outermost underWay key) :
    grammar.Stack tokens underWay ∧ key.stop ≤ tokens.length := by
  induction tried with
  | outermost => exact ⟨.empty, within⟩
  | nested _ outside known reached inductionHypothesis =>
    obtain ⟨stack, within⟩ := inductionHypothesis
    exact ⟨stack.push outside known within, reached.stop_le.trans within⟩

end Grammar

/-- In a consistent match the chart remembers answers that are found without memory, and each of
them is the right one wherever it is recalled. -/
def Matcher.Invariant.consistent {grammar : Grammar α} {tokens : List Token} {outermost : Attempt}
    (within : outermost.stop ≤ tokens.length) (consistent : grammar.Consistent tokens outermost) :
    Invariant grammar tokens true where
  allowed := grammar.Tried tokens outermost
  answered underWay key answer := grammar.answerUnder tokens underWay key = some answer
  kept := grammar.FoundIn tokens outermost
  noted _ := True
  keep _ tried outside answer_ok := ⟨_, tried, outside, answer_ok⟩
  recalled := by
    rintro underWay key answer _ tried outside ⟨earlier, triedEarlier, outsideEarlier, answer_ok⟩
    rw [← answer_ok]
    exact consistent _ _ key tried triedEarlier outside outsideEarlier
  reenter := by
    intro underWay key tried inside
    obtain ⟨stack, within⟩ := tried.stack within
    rw [Grammar.answerUnder_eq_guarded stack within]
    exact ⟨congrArg some
      ((Invariant.forgetful grammar tokens).reenter ⟨stack, within⟩ inside).1, trivial⟩
  missing := by
    intro underWay key tried outside missing
    obtain ⟨stack, within⟩ := tried.stack within
    rw [Grammar.answerUnder_eq_guarded stack within]
    exact congrArg some
      ((Invariant.forgetful grammar tokens).missing ⟨stack, within⟩ outside missing)
  descend := .nested
  conclude := by
    intro underWay key rule answer tried outside known outcome
    obtain ⟨stack, within⟩ := tried.stack within
    exact ⟨Grammar.answerUnder_of_outcome stack within outside known outcome, trivial⟩
  stall := by simp

namespace Grammar

variable {grammar : Grammar α} {tokens : List Token} {outermost : Attempt}

theorem Consistent.transparent (within : outermost.stop ≤ tokens.length)
    (consistent : grammar.Consistent tokens outermost) : grammar.Transparent tokens outermost := by
  rintro underWay key tried outside chart rfl remembered
  obtain ⟨stack, keyWithin⟩ := tried.stack within
  have held : (Invariant.consistent within consistent).Holds chart :=
    ⟨fun _ => remembered, by simp [Invariant.consistent]⟩
  obtain ⟨answer, later, run, _, answer_ok⟩ :=
    (Invariant.consistent within consistent).keeps_attempt stack (Nat.le_add_right _ _) keyWithin
      tried chart ⟨rfl, held⟩
  have answer_ok : grammar.answerUnder tokens chart.underWay key = some answer := answer_ok
  rw [run, answer_ok]
  rfl

/-- In an acyclic grammar the answer of an attempt does not hang on those under way. -/
theorem Acyclic.consistent (acyclic : grammar.Acyclic) (within : outermost.stop ≤ tokens.length) :
    grammar.Consistent tokens outermost := by
  obtain ⟨answers, plain⟩ := exists_plain acyclic tokens
  have below {underWay : List Attempt} {key : Attempt}
      (tried : grammar.Tried tokens outermost underWay key) :
      ∀ above ∈ underWay, grammar.Below key above := by
    induction tried with
    | outermost => simp
    | nested _ _ known reached inductionHypothesis =>
      exact below_underWay inductionHypothesis known reached
  have alike {underWay : List Attempt} {key : Attempt}
      (tried : grammar.Tried tokens outermost underWay key) :
      grammar.answerUnder tokens underWay key = some (answers key) := by
    obtain ⟨stack, keyWithin⟩ := tried.stack within
    have held : (Invariant.plain acyclic plain false).Holds { underWay } :=
      ⟨by simp, by simp [Invariant.plain]⟩
    obtain ⟨answer, later, run, _, rfl⟩ :=
      (Invariant.plain acyclic plain false).keeps_attempt stack (Nat.le_add_right _ _) keyWithin
        (below tried) _ ⟨rfl, held⟩
    simp [answerUnder, run]
  intro first second key triedFirst triedSecond _ _
  rw [alike triedFirst, alike triedSecond]

theorem run_attempt_of_remembered (grammar : Grammar α) (tokens : List Token) (allowance : Nat)
    {key : Attempt} {chart : Chart α} {answer : Option (Match α)}
    (remembered : chart.answers[key]? = some answer) :
    (attempt grammar tokens true allowance key).run chart = some (answer, chart) := by
  cases allowance <;> simp [attempt, run_consult, remembered]

/-- A chart that remembers the one of two answers gives it where the other one is right. -/
theorem Transparent.consistent (within : outermost.stop ≤ tokens.length)
    (transparent : grammar.Transparent tokens outermost) : grammar.Consistent tokens outermost := by
  intro first second key triedFirst triedSecond outsideFirst outsideSecond
  obtain ⟨stack, keyWithin⟩ := triedFirst.stack within
  obtain ⟨answer, found⟩ : ∃ answer, grammar.answerUnder tokens first key = some answer :=
    ⟨_, answerUnder_eq_guarded stack keyWithin⟩
  let chart : Chart α := { answers := Std.TreeMap.empty.insert key answer, underWay := second }
  have remembered (other : Attempt) : chart.answers[other]? =
      if key = other then some answer else none := by
    simp [chart, Std.TreeMap.getElem?_insert, Attempt.order_eq_iff]
  have honest : ∀ other answer, chart.answers[other]? = some answer →
      other ∉ second ∧ grammar.FoundIn tokens outermost other answer := by
    intro other kept known
    rw [remembered] at known
    split at known
    · rename_i same
      cases same
      cases known
      exact ⟨outsideSecond, first, triedFirst, outsideFirst, found⟩
    · cases known
  have recalled := run_attempt_of_remembered grammar tokens (grammar.allowance tokens)
    ((remembered key).trans (if_pos rfl))
  rw [found, ← transparent second key triedSecond outsideSecond chart rfl honest, recalled]
  rfl

/-- In a consistent match memory changes nothing. Consistency is also what it takes for memory to
change nothing in any state of the chart. -/
theorem answer?_remembering (grammar : Grammar α) (tokens : List Token) (id : RuleId) :
    (grammar.Consistent tokens ⟨id, tokens.length⟩ →
      grammar.answer? true tokens ⟨id, tokens.length⟩ =
        grammar.answer? false tokens ⟨id, tokens.length⟩) ∧
    (grammar.Consistent tokens ⟨id, tokens.length⟩ ↔
      grammar.Transparent tokens ⟨id, tokens.length⟩) := by
  refine ⟨?_, Consistent.transparent le_rfl, Transparent.consistent le_rfl⟩
  intro consistent
  exact consistent.transparent le_rfl [] ⟨id, tokens.length⟩ .outermost (by simp) {} rfl (by simp)

end Grammar

/-- Rules that come back to each other: the first with a number to fall back on, the second
without, and a third that tries the one before the other. -/
def roundabout : Grammar Nat where
  rules := [
    ⟨.arithExpr, [.sequence [⟨1⟩] 1, .terminal .number 2]⟩,
    ⟨.term, [.sequence [⟨0⟩] 3]⟩,
    ⟨.expr, [.sequence [⟨0⟩, ⟨0⟩] 4, .sequence [⟨1⟩] 5]⟩]
  root := ⟨2⟩

/-- With memory the second rule is remembered to have failed, as it did within the first. -/
theorem roundabout_remembering :
    roundabout.answer? true [⟨.number, "1"⟩] ⟨⟨2⟩, 1⟩ = some none ∧
    roundabout.answer? false [⟨.number, "1"⟩] ⟨⟨2⟩, 1⟩ =
      some (some ⟨0, .branch 5 [.branch 3 [.leaf 2 ⟨.number, "1"⟩]]⟩) :=
  ⟨rfl, rfl⟩

end DiceCalculator
