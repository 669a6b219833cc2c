import DiceCalculator.Proofs.Matching.Outcome
import Mathlib.Data.Finset.Prod
import Mathlib.Data.Finset.Card

/-!
# Invariants of matching

An `Invariant` says what attempts are made, what their answers are like, what is
kept in the chart and what is noted, each as far as it follows from one rule
trying its alternatives. The main statement carries it through a whole match:
every attempt comes to an answer within the allowance, and the invariant holds
of the answer and of the chart it leaves.

The allowance suffices because the attempts under way are different from one
another and in range, and there are only so many of them.
-/

namespace DiceCalculator

variable {α β : Type}

namespace Grammar

/-- The attempt is at a rule of the grammar and at a place among the tokens. -/
def InRange (grammar : Grammar α) (tokens : List Token) (key : Attempt) : Prop :=
  key.rule.index < grammar.rules.length ∧ key.stop ≤ tokens.length

/-- The attempts can be under way together. -/
structure Stack (grammar : Grammar α) (tokens : List Token) (underWay : List Attempt) : Prop where
  distinct : underWay.Nodup
  inRange : ∀ key ∈ underWay, grammar.InRange tokens key

variable {grammar : Grammar α} {tokens : List Token} {underWay : List Attempt}

theorem Stack.empty : grammar.Stack tokens [] where
  distinct := List.nodup_nil
  inRange := by simp

theorem Stack.push (stack : grammar.Stack tokens underWay) {key : Attempt} {rule : Rule α}
    (outside : key ∉ underWay) (found : grammar.rule? key.rule = some rule)
    (within : key.stop ≤ tokens.length) : grammar.Stack tokens (key :: underWay) where
  distinct := List.nodup_cons.2 ⟨outside, stack.distinct⟩
  inRange := by
    have known : key.rule.index < grammar.rules.length := (List.getElem?_eq_some_iff.1 found).1
    simpa using ⟨⟨known, within⟩, stack.inRange⟩

theorem Stack.length_le (stack : grammar.Stack tokens underWay) :
    underWay.length ≤ grammar.allowance tokens := by
  have injective : Set.InjOn (fun key : Attempt => (key.rule.index, key.stop))
      (underWay.toFinset : Set Attempt) := by
    rintro ⟨⟨i⟩, m⟩ _ ⟨⟨j⟩, n⟩ _ same
    simpa using same
  have inside : ∀ key ∈ underWay.toFinset, (key.rule.index, key.stop) ∈
      Finset.range grammar.rules.length ×ˢ Finset.range (tokens.length + 1) := by
    intro key member
    have := stack.inRange key (List.mem_toFinset.1 member)
    exact Finset.mem_product.2
      ⟨Finset.mem_range.2 this.1, Finset.mem_range.2 (Nat.lt_succ_of_le this.2)⟩
  calc underWay.length = underWay.toFinset.card :=
      (List.toFinset_card_of_nodup stack.distinct).symm
    _ ≤ (Finset.range grammar.rules.length ×ˢ Finset.range (tokens.length + 1)).card :=
      Finset.card_le_card_of_injOn _ inside injective
    _ = grammar.allowance tokens := by simp [allowance]

/-- Tries a rule before a place, beginning with an empty chart. -/
def runAt (grammar : Grammar α) (remembering : Bool) (tokens : List Token) (key : Attempt) :
    Option (Option (Match α) × Chart α) :=
  (Matcher.attempt grammar tokens remembering (grammar.allowance tokens) key).run {}

/-- The answer of a rule before a place, beginning with an empty chart. -/
def answer? (grammar : Grammar α) (remembering : Bool) (tokens : List Token) (key : Attempt) :
    Option (Option (Match α)) :=
  (grammar.runAt remembering tokens key).map Prod.fst

/-- What a match of a rule before the end finds is the answer there. -/
theorem found_matchRule {id : RuleId} {answer : Option (Match α)}
    (known : grammar.answer? true tokens ⟨id, tokens.length⟩ = some answer) :
    (grammar.matchRule id tokens).found = answer := by
  obtain ⟨⟨found, chart⟩, run, rfl⟩ := Option.map_eq_some_iff.1 known
  have run : grammar.run true id tokens = some (found, chart) := run
  simp [matchRule, run]

end Grammar

namespace Matcher

/-- From a chart with the property the computation comes to a result, and to a chart with the
property again. -/
def Keeps (holds : Chart α → Prop) (computation : Matcher α β) (result : β → Prop) : Prop :=
  ∀ chart, holds chart →
    ∃ b later, computation.run chart = some (b, later) ∧ holds later ∧ result b

section Alternatives

variable {holds : Chart α → Prop} {attempt : Attempt → Matcher α (Option (Match α))}
  {answered : Attempt → Option (Match α) → Prop} {tokens : List Token} {stop : Nat}

theorem keeps_matchParts {parts : List RuleId} {trees : List (Tree α)}
    (each : ∀ key, PartsReach answered parts stop key → Keeps holds (attempt key) (answered key))
    (nothing : ∀ part place found, PartsReach answered parts stop ⟨part, place⟩ →
      answered ⟨part, place⟩ (some found) → ¬found.start < place →
      ∀ chart, holds chart → holds (chart.note (.tookNothing part))) :
    Keeps holds (matchParts attempt parts stop trees) (PartsOutcome answered parts stop trees) := by
  induction parts generalizing stop trees with
  | nil => exact fun chart held => ⟨_, chart, rfl, held, .done⟩
  | cons part earlier inductionHypothesis =>
    intro chart held
    obtain ⟨answer, later, run, held, answer_ok⟩ := each _ .here chart held
    rw [run_matchParts_cons, run]
    cases answer with
    | none => exact ⟨none, later, rfl, held, .failed answer_ok⟩
    | some found =>
      by_cases something : found.start < stop
      · obtain ⟨outcome, last, run, held, outcome_ok⟩ :=
          inductionHypothesis
            (fun key reached => each key (.earlier answer_ok something reached))
            (fun part place found reached =>
              nothing part place found (.earlier answer_ok something reached))
            later held
        exact ⟨outcome, last, by simpa [something] using run, held,
          .took answer_ok something outcome_ok⟩
      · exact ⟨none, _, by simp [something],
          nothing part stop found .here answer_ok something later held,
          .tookNothing answer_ok something⟩

theorem keeps_firstMatch {alternatives : List (Alternative α)}
    (each : ∀ key, ChoiceReach answered tokens stop alternatives key →
      Keeps holds (attempt key) (answered key))
    (nothing : ∀ part place found, ChoiceReach answered tokens stop alternatives ⟨part, place⟩ →
      answered ⟨part, place⟩ (some found) → ¬found.start < place →
      ∀ chart, holds chart → holds (chart.note (.tookNothing part))) :
    Keeps holds (firstMatch (matchAlternative attempt tokens stop) alternatives)
      (ChoiceOutcome answered tokens stop alternatives) := by
  induction alternatives with
  | nil => exact fun chart held => ⟨none, chart, rfl, held, .none⟩
  | cons alternative rest inductionHypothesis =>
    intro chart held
    have tried : Keeps holds (matchAlternative attempt tokens stop alternative)
        (AlternativeOutcome answered tokens stop alternative) := by
      cases alternative with
      | terminal kind action => exact fun chart held => ⟨_, chart, rfl, held, .terminal⟩
      | literal text => exact fun chart held => ⟨_, chart, rfl, held, .literal⟩
      | sequence parts action =>
        intro chart held
        have inTurn : Keeps holds (matchParts attempt parts.reverse stop [])
            (PartsOutcome answered parts.reverse stop []) :=
          keeps_matchParts (fun key reached => each key (.first reached))
            (fun part place found reached => nothing part place found (.first reached))
        obtain ⟨outcome, later, run, held, outcome_ok⟩ := inTurn chart held
        refine ⟨_, later, ?_, held, .sequence outcome_ok⟩
        simp only [matchAlternative, StateT.run_bind, run]
        rfl
    obtain ⟨answer, later, run, held, answer_ok⟩ := tried chart held
    rw [run_firstMatch_cons, run]
    cases answer with
    | some found => exact ⟨some found, later, rfl, held, .first answer_ok⟩
    | none =>
      obtain ⟨outcome, last, run, held, outcome_ok⟩ :=
        inductionHypothesis (fun key reached => each key (.later answer_ok reached))
          (fun part place found reached => nothing part place found (.later answer_ok reached))
          later held
      exact ⟨outcome, last, run, held, .later answer_ok outcome_ok⟩

end Alternatives

/-- A property of attempts, answers, kept answers and events that every rule passes on. The lists
are the attempts under way. -/
structure Invariant (grammar : Grammar α) (tokens : List Token) (remembering : Bool) where
  /-- The attempt may be made. -/
  allowed : List Attempt → Attempt → Prop
  /-- The attempt may come to the answer. -/
  answered : List Attempt → Attempt → Option (Match α) → Prop
  /-- The answer may be found in the chart. -/
  kept : Attempt → Option (Match α) → Prop
  /-- The event may happen. -/
  noted : Event → Prop
  keep : ∀ {underWay key answer}, remembering = true → allowed underWay key → key ∉ underWay →
    answered underWay key answer → kept key answer
  recalled : ∀ {underWay key answer}, remembering = true → allowed underWay key → key ∉ underWay →
    kept key answer → answered underWay key answer
  reenter : ∀ {underWay key}, allowed underWay key → key ∈ underWay →
    answered underWay key none ∧ noted (.reentered key.rule key.stop)
  missing : ∀ {underWay key}, allowed underWay key → key ∉ underWay →
    grammar.rule? key.rule = none → answered underWay key none
  descend : ∀ {underWay key rule next}, allowed underWay key → key ∉ underWay →
    grammar.rule? key.rule = some rule →
    ChoiceReach (answered (key :: underWay)) tokens key.stop rule.alternatives next →
    allowed (key :: underWay) next
  conclude : ∀ {underWay key rule answer}, allowed underWay key → key ∉ underWay →
    grammar.rule? key.rule = some rule →
    ChoiceOutcome (answered (key :: underWay)) tokens key.stop rule.alternatives answer →
    answered underWay key answer ∧ noted (eventOf key answer)
  stall : ∀ {underWay key found}, allowed underWay key → answered underWay key (some found) →
    ¬found.start < key.stop → noted (.tookNothing key.rule)

namespace Invariant

variable {grammar : Grammar α} {tokens : List Token} {remembering : Bool}
  (invariant : Invariant grammar tokens remembering)

/-- The invariant of a chart: an answer in it is not that of an attempt under way. -/
structure Holds (chart : Chart α) : Prop where
  remembered : remembering = true → ∀ key answer, chart.answers[key]? = some answer →
    key ∉ chart.underWay ∧ invariant.kept key answer
  events : ∀ event ∈ chart.events, invariant.noted event

variable {invariant}

theorem Holds.empty : invariant.Holds {} where
  remembered _ key answer found := by simp at found
  events := by simp

theorem Holds.note {chart : Chart α} (held : invariant.Holds chart) {event : Event}
    (allowed : invariant.noted event) : invariant.Holds (chart.note event) where
  remembered := held.remembered
  events := by simpa [Chart.note] using ⟨allowed, held.events⟩

theorem Holds.enter {chart : Chart α} (held : invariant.Holds chart) {key : Attempt}
    (unknown : remembering = true → chart.answers[key]? = none) :
    invariant.Holds (chart.enter key) where
  remembered memory other answer found := by
    obtain ⟨outside, kept⟩ := held.remembered memory other answer found
    refine ⟨?_, kept⟩
    rintro (_ | ⟨_, member⟩)
    · simp [Chart.enter, unknown memory] at found
    · exact outside member
  events := held.events

theorem Holds.leave {chart : Chart α} (held : invariant.Holds chart) (key : Attempt) :
    invariant.Holds (chart.leave key) where
  remembered memory other answer found := by
    obtain ⟨outside, kept⟩ := held.remembered memory other answer found
    exact ⟨fun member => outside (List.mem_of_mem_erase member), kept⟩
  events := held.events

theorem Holds.remember {chart : Chart α} (held : invariant.Holds chart) {key : Attempt}
    {answer : Option (Match α)} (outside : key ∉ chart.underWay)
    (kept : invariant.kept key answer) : invariant.Holds (chart.remember key answer) where
  remembered memory other found inserted := by
    simp only [Chart.remember, Std.TreeMap.getElem?_insert, Attempt.order_eq_iff] at inserted
    split at inserted
    · rename_i same
      cases same
      cases inserted
      exact ⟨outside, kept⟩
    · exact held.remembered memory other found inserted
  events := held.events

variable (invariant)

/-- One rule passes the invariant on if the attempts it makes do. -/
theorem keeps_tryRule {attempt : Attempt → Matcher α (Option (Match α))}
    {underWay : List Attempt} {key : Attempt} {rule : Rule α}
    (allowed : invariant.allowed underWay key) (outside : key ∉ underWay)
    (found : grammar.rule? key.rule = some rule)
    (each : ∀ next, ChoiceReach (invariant.answered (key :: underWay)) tokens key.stop
        rule.alternatives next →
      Keeps (fun chart => chart.underWay = key :: underWay ∧ invariant.Holds chart) (attempt next)
        (invariant.answered (key :: underWay) next))
    (chart : Chart α) (active : chart.underWay = underWay) (held : invariant.Holds chart)
    (unknown : remembering = true → chart.answers[key]? = none) :
    ∃ answer later, (tryRule attempt tokens remembering key rule).run chart = some (answer, later) ∧
      (later.underWay = underWay ∧ invariant.Holds later) ∧
      invariant.answered underWay key answer := by
  have nothing : ∀ part place found, ChoiceReach (invariant.answered (key :: underWay)) tokens
      key.stop rule.alternatives ⟨part, place⟩ →
      invariant.answered (key :: underWay) ⟨part, place⟩ (some found) → ¬found.start < place →
      ∀ chart : Chart α, chart.underWay = key :: underWay ∧ invariant.Holds chart →
        (chart.note (.tookNothing part)).underWay = key :: underWay ∧
          invariant.Holds (chart.note (.tookNothing part)) := by
    intro part place taken reached answer_ok stalled chart held
    have next := invariant.descend allowed outside found reached
    exact ⟨held.1, held.2.note (invariant.stall next answer_ok stalled)⟩
  obtain ⟨answer, later, run, ⟨laterActive, laterHeld⟩, outcome⟩ :=
    keeps_firstMatch each nothing (chart.enter key)
      ⟨by simp [Chart.enter, active], held.enter unknown⟩
  obtain ⟨answer_ok, noted⟩ := invariant.conclude allowed outside found outcome
  have left : (later.leave key).underWay = underWay := by simp [Chart.leave, laterActive]
  have closed := (laterHeld.leave key).note noted
  rw [run_tryRule, run]
  cases remembering with
  | false => exact ⟨answer, _, rfl, ⟨left, closed⟩, answer_ok⟩
  | true =>
    have kept := invariant.keep rfl allowed outside answer_ok
    refine ⟨answer, _, rfl, ⟨left, closed.remember ?_ kept⟩, answer_ok⟩
    simpa [Chart.note, left] using outside

theorem keeps_consult {underWay : List Attempt} {key : Attempt}
    {tried : Rule α → Matcher α (Option (Match α))} (allowed : invariant.allowed underWay key)
    (each : ∀ rule, key ∉ underWay → grammar.rule? key.rule = some rule →
      ∀ chart : Chart α, chart.underWay = underWay → invariant.Holds chart →
        (remembering = true → chart.answers[key]? = none) →
        ∃ answer later, (tried rule).run chart = some (answer, later) ∧
          (later.underWay = underWay ∧ invariant.Holds later) ∧
          invariant.answered underWay key answer) :
    Keeps (fun chart => chart.underWay = underWay ∧ invariant.Holds chart)
      (consult grammar remembering key tried) (invariant.answered underWay key) := by
  rintro chart ⟨active, held⟩
  rw [run_consult]
  cases recalled : (if remembering then chart.answers[key]? else none) with
  | some answer =>
    obtain ⟨memory, found⟩ : remembering = true ∧ chart.answers[key]? = some answer := by
      simpa using recalled
    obtain ⟨outside, kept⟩ := held.remembered memory key answer found
    rw [active] at outside
    exact ⟨answer, chart, rfl, ⟨active, held⟩, invariant.recalled memory allowed outside kept⟩
  | none =>
    by_cases inside : key ∈ underWay
    · obtain ⟨answer_ok, noted⟩ := invariant.reenter allowed inside
      exact ⟨none, chart.note (.reentered key.rule key.stop), by simp [active, inside],
        ⟨active, held.note noted⟩, answer_ok⟩
    · cases found : grammar.rule? key.rule with
      | none =>
        exact ⟨none, chart, by simp [active, inside], ⟨active, held⟩,
          invariant.missing allowed inside found⟩
      | some rule =>
        have unknown : remembering = true → chart.answers[key]? = none := by
          rintro rfl
          simpa using recalled
        simpa [active, inside] using each rule inside found chart active held unknown

/-- Every attempt that may be made comes to an answer, and the invariant holds of it and of the
chart that it leaves. -/
theorem keeps_attempt {allowance : Nat} {underWay : List Attempt} {key : Attempt}
    (stack : grammar.Stack tokens underWay)
    (enough : grammar.allowance tokens ≤ allowance + underWay.length)
    (within : key.stop ≤ tokens.length) (allowed : invariant.allowed underWay key) :
    Keeps (fun chart => chart.underWay = underWay ∧ invariant.Holds chart)
      (attempt grammar tokens remembering allowance key) (invariant.answered underWay key) := by
  induction allowance generalizing underWay key with
  | zero =>
    apply invariant.keeps_consult allowed
    intro rule outside found
    -- With this one there would be more attempts under way than there are.
    have tooMany := (stack.push outside found within).length_le
    simp only [List.length_cons] at tooMany
    omega
  | succ allowance inductionHypothesis =>
    apply invariant.keeps_consult allowed
    intro rule outside found chart active held unknown
    refine invariant.keeps_tryRule allowed outside found ?_ chart active held unknown
    intro next reached
    apply inductionHypothesis (stack.push outside found within)
    · simp only [List.length_cons]
      omega
    · exact reached.stop_le.trans within
    · exact invariant.descend allowed outside found reached

/-- The invariant holds of what an empty chart leads to. -/
theorem exists_run {key : Attempt} (within : key.stop ≤ tokens.length)
    (allowed : invariant.allowed [] key) :
    ∃ answer chart, grammar.runAt remembering tokens key = some (answer, chart) ∧
      invariant.answered [] key answer ∧ invariant.Holds chart := by
  obtain ⟨answer, chart, run, held, answer_ok⟩ :=
    invariant.keeps_attempt .empty (Nat.le_add_right _ _) within allowed {} ⟨rfl, .empty⟩
  exact ⟨answer, chart, run, answer_ok, held.2⟩

end Invariant

end Matcher

end DiceCalculator
