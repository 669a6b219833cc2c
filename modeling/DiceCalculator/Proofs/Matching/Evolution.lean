import DiceCalculator.Proofs.Matching.Outcome
import Mathlib.Data.List.Nodup
import Mathlib.Tactic.Common

/-!
# How a chart grows

`Evolution` says what one rule may do to the chart when the rules below it keep
to the same; then a whole attempt keeps to it, whether the attempt matches,
fails, is answered by the chart or comes back to itself. Two relations are of
the kind: what is under way is left as it was, and with memory every attempt
that is tried is new to the chart and in it afterwards.
-/

namespace DiceCalculator

open Matcher

variable {α β : Type}

/-- The attempt whose alternatives were tried, if the event tells what they came to. -/
def Event.tried? : Event → Option Attempt
  | .matched rule _ stop => some ⟨rule, stop⟩
  | .failed rule stop => some ⟨rule, stop⟩
  | .reentered .. => none
  | .tookNothing .. => none

theorem Event.tried?_eventOf (key : Attempt) (answer : Option (Match α)) :
    (eventOf key answer).tried? = some key := by
  cases answer <;> rfl

namespace Chart

/-- The attempts whose alternatives were tried, as often as they were, the latest first. -/
def tried (chart : Chart α) : List Attempt :=
  chart.events.filterMap Event.tried?

/-- The chart once an attempt under way has come to its answer. -/
def settle (chart : Chart α) (remembering : Bool) (key : Attempt) (answer : Option (Match α)) :
    Chart α :=
  let chart := (chart.leave key).note (eventOf key answer)
  if remembering then chart.remember key answer else chart

variable {chart : Chart α} {remembering : Bool} {key : Attempt} {answer : Option (Match α)}

theorem tried_note_of_none {event : Event} (aside : event.tried? = none) :
    (chart.note event).tried = chart.tried := by
  simp [tried, note, aside]

@[simp] theorem underWay_settle :
    (chart.settle remembering key answer).underWay = chart.underWay.erase key := by
  cases remembering <;> rfl

@[simp] theorem tried_settle :
    (chart.settle remembering key answer).tried = key :: chart.tried := by
  cases remembering <;>
    simp [settle, tried, note, leave, remember, Event.tried?_eventOf]

theorem answers_settle (other : Attempt) :
    (chart.settle true key answer).answers[other]? =
      if key = other then some answer else chart.answers[other]? := by
  simp [settle, note, leave, remember, Std.TreeMap.getElem?_insert, Attempt.order_eq_iff]

end Chart

namespace Matcher

/-- Each run of the computation that comes to a result takes its chart to a related one. -/
def Leads (becomes : Chart α → Chart α → Prop) (computation : Matcher α β) : Prop :=
  ∀ chart b later, computation.run chart = some (b, later) → becomes chart later

/-- A relation between an earlier and a later chart that is kept by what matching does: nothing, one
thing after the other, a remark that settles no attempt, and a rule that is tried. -/
structure Evolution (remembering : Bool) (becomes : Chart α → Chart α → Prop) : Prop where
  refl (chart) : becomes chart chart
  trans {first second third} : becomes first second → becomes second third → becomes first third
  remark {chart event} : event.tried? = none → becomes chart (chart.note event)
  tried {chart later key answer} : (remembering = true → chart.answers[key]? = none) →
    key ∉ chart.underWay → becomes (chart.enter key) later →
    becomes chart (later.settle remembering key answer)

section Runs

variable {attempt : Attempt → Matcher α (Option (Match α))} {tokens : List Token} {stop : Nat}

theorem run_sequence (parts : List RuleId) (action : α) (chart : Chart α) :
    (matchAlternative attempt tokens stop (.sequence parts action)).run chart =
      ((matchParts attempt parts.reverse stop []).run chart).map fun (outcome, later) =>
        (sequenceMatch action outcome, later) := by
  simp only [matchAlternative, StateT.run_bind]
  cases (matchParts attempt parts.reverse stop []).run chart <;> rfl

theorem run_tryRule_eq_settle (remembering : Bool) (key : Attempt) (rule : Rule α)
    (chart : Chart α) :
    (tryRule attempt tokens remembering key rule).run chart =
      ((firstMatch (matchAlternative attempt tokens key.stop) rule.alternatives).run
        (chart.enter key)).map fun (answer, later) =>
          (answer, later.settle remembering key answer) := by
  rw [run_tryRule]
  rfl

end Runs

namespace Evolution

variable {remembering : Bool} {becomes : Chart α → Chart α → Prop}
  {attempt : Attempt → Matcher α (Option (Match α))} {grammar : Grammar α} {tokens : List Token}
  {stop : Nat}

theorem leads_matchParts (evolution : Evolution remembering becomes)
    (each : ∀ key, Leads becomes (attempt key)) (parts : List RuleId) (trees : List (Tree α)) :
    Leads becomes (matchParts attempt parts stop trees) := by
  induction parts generalizing stop trees with
  | nil =>
    intro chart b later run
    cases run
    exact evolution.refl chart
  | cons part earlier inductionHypothesis =>
    intro chart b later run
    rw [run_matchParts_cons] at run
    obtain ⟨⟨answer, middle⟩, first, rest⟩ := Option.bind_eq_some_iff.1 run
    have before := each _ _ _ _ first
    cases answer with
    | none =>
      cases rest
      exact before
    | some found =>
      by_cases something : found.start < stop
      · simp only [something, ↓reduceIte] at rest
        exact evolution.trans before (inductionHypothesis _ _ _ _ rest)
      · simp only [something, ↓reduceIte] at rest
        cases rest
        exact evolution.trans before (evolution.remark rfl)

theorem leads_matchAlternative (evolution : Evolution remembering becomes)
    (each : ∀ key, Leads becomes (attempt key)) (alternative : Alternative α) :
    Leads becomes (matchAlternative attempt tokens stop alternative) := by
  intro chart b later run
  cases alternative with
  | terminal kind action =>
    cases run
    exact evolution.refl chart
  | literal text =>
    cases run
    exact evolution.refl chart
  | sequence parts action =>
    rw [run_sequence] at run
    obtain ⟨⟨outcome, last⟩, inTurn, same⟩ := Option.map_eq_some_iff.1 run
    cases same
    exact evolution.leads_matchParts each _ _ _ _ _ inTurn

theorem leads_firstMatch (evolution : Evolution remembering becomes)
    (each : ∀ key, Leads becomes (attempt key)) (alternatives : List (Alternative α)) :
    Leads becomes (firstMatch (matchAlternative attempt tokens stop) alternatives) := by
  induction alternatives with
  | nil =>
    intro chart b later run
    cases run
    exact evolution.refl chart
  | cons alternative rest inductionHypothesis =>
    intro chart b later run
    rw [run_firstMatch_cons] at run
    obtain ⟨⟨answer, middle⟩, first, others⟩ := Option.bind_eq_some_iff.1 run
    have before := evolution.leads_matchAlternative each alternative _ _ _ first
    cases answer with
    | some found =>
      cases others
      exact before
    | none => exact evolution.trans before (inductionHypothesis _ _ _ others)

theorem leads_consult (evolution : Evolution remembering becomes) {key : Attempt}
    {tried : Rule α → Matcher α (Option (Match α))}
    (each : ∀ rule chart answer later, (remembering = true → chart.answers[key]? = none) →
      key ∉ chart.underWay → (tried rule).run chart = some (answer, later) → becomes chart later) :
    Leads becomes (consult grammar remembering key tried) := by
  intro chart answer later run
  rw [run_consult] at run
  cases recalled : (if remembering then chart.answers[key]? else none) with
  | some known =>
    rw [recalled] at run
    cases run
    exact evolution.refl chart
  | none =>
    rw [recalled] at run
    by_cases inside : key ∈ chart.underWay
    · simp only [inside, ↓reduceIte] at run
      cases run
      exact evolution.remark rfl
    · simp only [inside, ↓reduceIte] at run
      cases found : grammar.rule? key.rule with
      | none =>
        rw [found] at run
        cases run
        exact evolution.refl chart
      | some rule =>
        rw [found] at run
        refine each rule chart answer later ?_ inside run
        rintro rfl
        simpa using recalled

/-- An attempt that comes to an answer keeps to the relation, whatever its allowance. -/
theorem leads_attempt (evolution : Evolution remembering becomes) (allowance : Nat)
    (key : Attempt) : Leads becomes (Matcher.attempt grammar tokens remembering allowance key) := by
  induction allowance generalizing key with
  | zero =>
    apply evolution.leads_consult
    intro rule chart answer later _ _ run
    cases run
  | succ allowance inductionHypothesis =>
    apply evolution.leads_consult
    intro rule chart answer later unknown outside run
    rw [run_tryRule_eq_settle] at run
    obtain ⟨⟨answer, last⟩, chosen, same⟩ := Option.map_eq_some_iff.1 run
    cases same
    exact evolution.tried unknown outside
      (evolution.leads_firstMatch inductionHypothesis _ _ _ _ chosen)

end Evolution

theorem evolution_underWay (remembering : Bool) :
    Evolution remembering fun chart later : Chart α => later.underWay = chart.underWay where
  refl _ := rfl
  trans first second := second.trans first
  remark _ := rfl
  tried _ _ inner := by simp [inner, Chart.enter]

/-- What is in the chart stays there, and the attempts that were tried in between are different
from one another, were neither in the chart nor under way, and are in the chart now. -/
structure Fresh (chart later : Chart α) : Prop where
  keeps (key : Attempt) (answer : Option (Match α)) :
    chart.answers[key]? = some answer → later.answers[key]? = some answer
  tried : ∃ added, later.tried = added ++ chart.tried ∧ added.Nodup ∧
    ∀ key ∈ added, chart.answers[key]? = none ∧ key ∉ chart.underWay ∧
      later.answers[key]? ≠ none
  underWay_eq : later.underWay = chart.underWay

theorem evolution_fresh : Evolution true (Fresh (α := α)) where
  refl chart := ⟨fun _ _ known => known, ⟨[], by simp⟩, rfl⟩
  trans := by
    intro first second third earlier later
    obtain ⟨before, triedBefore, distinctBefore, freshBefore⟩ := earlier.tried
    obtain ⟨after, triedAfter, distinctAfter, freshAfter⟩ := later.tried
    have stays {key : Attempt} (known : second.answers[key]? ≠ none) :
        third.answers[key]? ≠ none := by
      obtain ⟨answer, known⟩ := Option.ne_none_iff_exists'.1 known
      simp [later.keeps key answer known]
    refine ⟨?_, ⟨after ++ before, ?_, ?_, ?_⟩, later.underWay_eq.trans earlier.underWay_eq⟩
    · intro key answer known
      exact later.keeps key answer (earlier.keeps key answer known)
    · rw [triedAfter, triedBefore, List.append_assoc]
    · apply distinctAfter.append distinctBefore
      -- What the first part tried is in the chart when the second part begins.
      intro key inAfter inBefore
      exact (freshBefore key inBefore).2.2 (freshAfter key inAfter).1
    · intro key member
      rcases List.mem_append.1 member with inAfter | inBefore
      · obtain ⟨unknown, outside, known⟩ := freshAfter key inAfter
        refine ⟨?_, earlier.underWay_eq ▸ outside, known⟩
        by_contra already
        obtain ⟨answer, already⟩ := Option.ne_none_iff_exists'.1 already
        simp [earlier.keeps key answer already] at unknown
      · obtain ⟨unknown, outside, known⟩ := freshBefore key inBefore
        exact ⟨unknown, outside, stays known⟩
  remark := by
    intro chart event aside
    refine ⟨fun _ _ known => known, ⟨[], ?_, List.nodup_nil, by simp⟩, rfl⟩
    exact Chart.tried_note_of_none aside
  tried := by
    intro chart later key answer unknown outside inner
    have unknown := unknown rfl
    obtain ⟨added, tried, distinct, fresh⟩ := inner.tried
    have apart : key ∉ added := fun member => (fresh key member).2.1 List.mem_cons_self
    refine ⟨?_, ⟨key :: added, ?_, List.nodup_cons.2 ⟨apart, distinct⟩, ?_⟩, ?_⟩
    · intro other known found
      rw [Chart.answers_settle]
      split
      · rename_i same
        cases same
        simp [unknown] at found
      · exact inner.keeps other known found
    · rw [Chart.tried_settle, tried]
      rfl
    · intro other member
      rw [Chart.answers_settle]
      rcases List.mem_cons.1 member with rfl | member
      · exact ⟨unknown, outside, by simp⟩
      · obtain ⟨unknown, outsideToo, known⟩ := fresh other member
        refine ⟨unknown, fun inside => outsideToo (List.mem_cons_of_mem _ inside), ?_⟩
        split
        · simp
        · exact known
    · rw [Chart.underWay_settle, inner.underWay_eq]
      exact List.erase_cons_head ..

end Matcher

end DiceCalculator
