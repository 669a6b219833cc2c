import DiceCalculator.Proofs.Matching.Bounds
import DiceCalculator.Proofs.Matching.OrderedChoice

/-!
# Matching without warnings

Two guards watch over matching: one turns away a rule that comes back to itself
at the same place, the other a part of a sequence that takes nothing. In a
grammar without cycles of last parts and without empty sequences neither ever
has anything to do. Each call is below all that are under way when it is made,
so it is none of them, and each match begins before the place where it stops,
also if it comes out of the chart.
-/

namespace DiceCalculator

open Matcher

variable {α : Type}

/-- The event tells of a rule that failed, or that took something. -/
def Event.Routine : Event → Prop
  | .matched _ length _ => 0 < length
  | .failed .. => True
  | .reentered .. => False
  | .tookNothing .. => False

theorem Event.Routine.severity_ne {event : Event} (routine : event.Routine) :
    event.severity ≠ .warn := by
  cases event with
  | matched | failed => exact nofun
  | reentered | tookNothing => cases routine

namespace Matcher

section Calls

variable {attempt : Attempt → Matcher α (Option (Match α))} {tokens : List Token} {stop : Nat}
  {chart inner : Chart α} {key : Attempt}

theorem PartsCall.head_or_lt {parts : List RuleId}
    (call : PartsCall attempt parts stop chart key inner) :
    parts.head? = some key.rule ∧ key.stop = stop ∨ key.stop < stop := by
  induction call with
  | here => exact .inl ⟨rfl, rfl⟩
  | earlier _ something _ inductionHypothesis =>
    right
    rcases inductionHypothesis with ⟨-, same⟩ | less <;> omega

theorem ChoiceCall.lastPart_or_lt {alternatives : List (Alternative α)}
    (call : ChoiceCall attempt tokens stop alternatives chart key inner) :
    (∃ alternative ∈ alternatives, alternative.lastPart? = some key.rule) ∧ key.stop = stop ∨
      key.stop < stop := by
  induction call with
  | @first parts action rest _ _ _ call =>
    rcases call.head_or_lt with ⟨last, same⟩ | less
    · rw [List.head?_reverse] at last
      exact .inl ⟨⟨.sequence parts action, List.mem_cons_self, last⟩, same⟩
    · exact .inr less
  | later _ _ inductionHypothesis =>
    refine inductionHypothesis.imp_left fun ⟨⟨alternative, member, last⟩, same⟩ => ⟨?_, same⟩
    exact ⟨alternative, List.mem_cons_of_mem _ member, last⟩

end Calls

section Outcomes

variable {answered : Attempt → Option (Match α) → Prop} {tokens : List Token} {start stop : Nat}

theorem PartsOutcome.start_le {parts : List RuleId} {trees all : List (Tree α)}
    (outcome : PartsOutcome answered parts stop trees (some (start, all))) :
    start ≤ stop ∧ (parts ≠ [] → start < stop) := by
  generalize asked : some (start, all) = result at outcome
  induction outcome with
  | done =>
    cases asked
    exact ⟨le_rfl, absurd rfl⟩
  | failed => cases asked
  | tookNothing => cases asked
  | took _ something _ inductionHypothesis =>
    have less := (inductionHypothesis asked).1.trans_lt something
    exact ⟨less.le, fun _ => less⟩

/-- A rule takes something, unless it has an empty sequence. -/
theorem ChoiceOutcome.start_lt {alternatives : List (Alternative α)} {found : Match α}
    (solid : ∀ parts action, .sequence parts action ∈ alternatives → parts ≠ [])
    (outcome : ChoiceOutcome answered tokens stop alternatives (some found)) :
    found.start < stop := by
  obtain ⟨alternative, member, chosen⟩ := outcome.exists_alternative
  generalize asked : some found = answer at chosen
  cases chosen with
  | terminal =>
    obtain ⟨start, token, rfl, -, -, rfl⟩ := terminalMatch_eq_some_iff.1 asked.symm
    exact Nat.lt_succ_self start
  | literal =>
    obtain ⟨start, token, rfl, -, -, rfl⟩ := literalMatch_eq_some_iff.1 asked.symm
    exact Nat.lt_succ_self start
  | @sequence parts action _ inTurn =>
    obtain ⟨⟨start, trees⟩, rfl, rfl⟩ := Option.map_eq_some_iff.1 asked.symm
    exact inTurn.start_le.2 (by simpa using solid parts action member)

end Outcomes

end Matcher

namespace Grammar

variable {grammar : Grammar α} {tokens : List Token} {remembering : Bool}

/-- No sequence of the grammar is empty. -/
def Solid (grammar : Grammar α) : Prop :=
  ∀ id rule, grammar.rule? id = some rule →
    ∀ parts action, .sequence parts action ∈ rule.alternatives → parts ≠ []

/-- A call is below all that are under way. -/
theorem Calls.below_underWay {outermost key : Attempt} {depth : Nat} {chart : Chart α}
    (call : grammar.Calls remembering tokens outermost depth key chart) :
    ∀ above ∈ chart.underWay, grammar.Below key above := by
  induction call with
  | outermost => simp
  | @nested depth key chart rule next inner _ passes call inductionHypothesis =>
    have active := (call.place ((evolution_underWay remembering).leads_attempt _)).1
    have under : grammar.Below next key := by
      rcases call.lastPart_or_lt with ⟨⟨alternative, member, last⟩, same⟩ | less
      · exact .inr ⟨same, .single ⟨rule, alternative, passes.found, member, last⟩⟩
      · exact .inl less
    rw [active, Chart.enter, List.forall_mem_cons]
    exact ⟨under, fun above member => under.trans (inductionHypothesis above member)⟩

end Grammar

/-- Every answer takes something, and every event is routine. -/
def Matcher.Invariant.quiet {grammar : Grammar α} (acyclic : grammar.Acyclic)
    (solid : grammar.Solid) (tokens : List Token) (remembering : Bool) :
    Invariant grammar tokens remembering where
  allowed underWay key := ∀ above ∈ underWay, grammar.Below key above
  answered _ key answer := ∀ found, answer = some found → found.start < key.stop
  kept key answer := ∀ found, answer = some found → found.start < key.stop
  noted := Event.Routine
  keep _ _ _ answer_ok := answer_ok
  recalled _ _ _ kept := kept
  reenter below inside :=
    absurd (below _ inside) (acyclic.wellFounded_below.asymmetric _ _ · (below _ inside))
  missing _ _ _ := by simp
  descend below _ known reached := Grammar.below_underWay below known reached
  conclude := by
    intro underWay key rule answer _ _ known outcome
    cases answer with
    | none => exact ⟨nofun, trivial⟩
    | some found =>
      have less := outcome.start_lt (solid _ _ known)
      refine ⟨?_, Nat.sub_pos_of_lt less⟩
      rintro _ ⟨⟩
      exact less
  stall _ answer_ok stalled := absurd (answer_ok _ rfl) stalled

namespace Grammar

variable {grammar : Grammar α}

theorem exists_quiet_run (acyclic : grammar.Acyclic) (solid : grammar.Solid)
    (remembering : Bool) (id : RuleId) (tokens : List Token) :
    ∃ answer chart, grammar.run remembering id tokens = some (answer, chart) ∧
      (∀ found, answer = some found → found.start < tokens.length) ∧
      (Invariant.quiet acyclic solid tokens remembering).Holds chart := by
  have within : (⟨id, tokens.length⟩ : Attempt).stop ≤ tokens.length := le_rfl
  exact (Invariant.quiet acyclic solid tokens remembering).exists_run within
    (by simp [Invariant.quiet])

end Grammar

def Alternative.isEmptySequence : Alternative α → Bool
  | .sequence [] _ => true
  | _ => false

namespace Dice

open Grammar

theorem grammar_solid : grammar.Solid := by
  have each : ∀ rule ∈ grammar.rules, ∀ alternative ∈ rule.alternatives,
      alternative.isEmptySequence = false := by decide
  rintro id rule known parts action member rfl
  cases each rule (List.mem_of_getElem? known) _ member

/-- Whatever the tokens are, with memory and without, matching dice expressions writes no warning:
no call finds its own attempt under way, and no rule matches without taking a token, also where its
answer comes out of the chart. -/
theorem match_quiet (id : RuleId) (tokens : List Token) :
    (∀ remembering, ∃ answer chart, grammar.run remembering id tokens = some (answer, chart) ∧
      (∀ event ∈ chart.events, event.severity ≠ .warn) ∧
      (∀ rule length stop, .matched rule length stop ∈ chart.events → 0 < length) ∧
      (∀ found, answer = some found → found.start < tokens.length) ∧
      (remembering = true → ∀ (key : Attempt) (found : Match Action),
        chart.answers[key]? = some (some found) → found.start < key.stop)) ∧
    (∀ remembering depth key chart,
      grammar.Calls remembering tokens ⟨id, tokens.length⟩ depth key chart →
        key ∉ chart.underWay) ∧
    ∀ record ∈ (grammar.matchLogged id tokens).records, record.severity ≠ .warn := by
  have quiet (remembering : Bool) :=
    exists_quiet_run grammar_acyclic grammar_solid remembering id tokens
  refine ⟨?_, ?_, ?_⟩
  · intro remembering
    obtain ⟨answer, chart, run, something, held⟩ := quiet remembering
    refine ⟨answer, chart, run, fun event happened => (held.events event happened).severity_ne,
      fun rule length stop happened => held.events _ happened, something, ?_⟩
    intro memory key found known
    exact (held.remembered memory key _ known).2 found rfl
  · intro remembering depth key chart call inside
    have under := call.below_underWay key inside
    exact grammar_acyclic.wellFounded_below.asymmetric _ _ under under
  · obtain ⟨answer, chart, run, -, held⟩ := quiet true
    intro record written
    rw [records_matchLogged run] at written
    obtain ⟨event, happened, rfl⟩ := List.mem_map.1 written
    exact (held.events event (List.mem_reverse.1 happened)).severity_ne

end Dice

end DiceCalculator
