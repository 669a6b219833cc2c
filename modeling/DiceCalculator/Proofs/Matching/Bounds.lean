import DiceCalculator.Log.Steps
import DiceCalculator.Proofs.Matching.Evolution
import DiceCalculator.Proofs.Matching.Invariant

/-!
# Bounds on matching

A rule is under way from the moment it passes the re-entry check until it has
its answer, and what is under way is different from one another. So rules nest
no deeper than there are rules times places, with memory and without. With
memory there is more: a rule that has its answer at a place is in the chart, and
nothing in the chart is tried again, so all of a match tries no more rules than
that.
-/

namespace DiceCalculator

open Matcher

variable {α β : Type}

theorem Event.severity_eq_trace_iff (event : Event) :
    event.severity = .trace ↔ event.tried?.isSome := by
  cases event <;> simp [severity, tried?]

namespace Matcher

def Invariant.inRange (grammar : Grammar α) (tokens : List Token) (remembering : Bool) :
    Invariant grammar tokens remembering where
  allowed _ key := key.stop ≤ tokens.length
  answered _ _ _ := True
  kept _ _ := True
  noted event := ∀ key ∈ event.tried?, grammar.InRange tokens key
  keep := by simp
  recalled := by simp
  reenter := by simp [Event.tried?]
  missing := by simp
  descend within _ _ reached := reached.stop_le.trans within
  conclude := by
    intro underWay key rule answer within _ found _
    refine ⟨trivial, ?_⟩
    rw [Event.tried?_eventOf]
    rintro _ ⟨⟩
    exact ⟨(List.getElem?_eq_some_iff.1 found).1, within⟩
  stall := by simp [Event.tried?]

section Allowances

variable {attempt deeper : Attempt → Matcher α (Option (Match α))} {tokens : List Token}
  {stop : Nat}

/-- What the one computation comes to, the other one comes to as well. -/
def Extends (computation other : Matcher α β) : Prop :=
  ∀ chart result, computation.run chart = some result → other.run chart = some result

theorem extends_matchParts (each : ∀ key, Extends (attempt key) (deeper key))
    (parts : List RuleId) (trees : List (Tree α)) :
    Extends (matchParts attempt parts stop trees) (matchParts deeper parts stop trees) := by
  induction parts generalizing stop trees with
  | nil => exact fun _ _ run => run
  | cons part earlier inductionHypothesis =>
    intro chart result run
    rw [run_matchParts_cons] at run ⊢
    obtain ⟨⟨answer, middle⟩, first, rest⟩ := Option.bind_eq_some_iff.1 run
    rw [each _ _ _ first, Option.bind_some]
    cases answer with
    | none => exact rest
    | some found =>
      by_cases something : found.start < stop
      · simp only [something, ↓reduceIte] at rest ⊢
        exact inductionHypothesis _ _ _ rest
      · simp only [something, ↓reduceIte] at rest ⊢
        exact rest

theorem extends_matchAlternative (each : ∀ key, Extends (attempt key) (deeper key))
    (alternative : Alternative α) :
    Extends (matchAlternative attempt tokens stop alternative)
      (matchAlternative deeper tokens stop alternative) := by
  intro chart result run
  cases alternative with
  | terminal kind action => exact run
  | literal text => exact run
  | sequence parts action =>
    rw [run_sequence] at run ⊢
    obtain ⟨inner, inTurn, same⟩ := Option.map_eq_some_iff.1 run
    rw [extends_matchParts each _ _ _ _ inTurn, Option.map_some, same]

theorem extends_firstMatch (each : ∀ key, Extends (attempt key) (deeper key))
    (alternatives : List (Alternative α)) :
    Extends (firstMatch (matchAlternative attempt tokens stop) alternatives)
      (firstMatch (matchAlternative deeper tokens stop) alternatives) := by
  induction alternatives with
  | nil => exact fun _ _ run => run
  | cons alternative rest inductionHypothesis =>
    intro chart result run
    rw [run_firstMatch_cons] at run ⊢
    obtain ⟨⟨answer, middle⟩, first, others⟩ := Option.bind_eq_some_iff.1 run
    rw [extends_matchAlternative each _ _ _ first, Option.bind_some]
    cases answer with
    | some found => exact others
    | none => exact inductionHypothesis _ _ others

theorem extends_consult {grammar : Grammar α} {remembering : Bool} {key : Attempt}
    {tried others : Rule α → Matcher α (Option (Match α))}
    (each : ∀ rule, Extends (tried rule) (others rule)) :
    Extends (consult grammar remembering key tried) (consult grammar remembering key others) := by
  intro chart result run
  rw [run_consult] at run ⊢
  cases recalled : (if remembering then chart.answers[key]? else none) with
  | some known =>
    rw [recalled] at run
    exact run
  | none =>
    rw [recalled] at run
    by_cases inside : key ∈ chart.underWay
    · simp only [inside, ↓reduceIte] at run ⊢
      exact run
    · simp only [inside, ↓reduceIte] at run ⊢
      cases found : grammar.rule? key.rule with
      | none =>
        rw [found] at run
        exact run
      | some rule =>
        rw [found] at run
        exact each rule _ _ run

/-- A larger allowance changes no answer. -/
theorem extends_attempt {grammar : Grammar α} {remembering : Bool} {allowance more : Nat}
    (le : allowance ≤ more) (key : Attempt) :
    Extends (Matcher.attempt grammar tokens remembering allowance key)
      (Matcher.attempt grammar tokens remembering more key) := by
  induction allowance generalizing more key with
  | zero =>
    cases more with
    | zero => exact fun _ _ run => run
    | succ more =>
      apply extends_consult
      intro rule chart result run
      cases run
  | succ allowance inductionHypothesis =>
    cases more with
    | zero => exact absurd le (Nat.not_succ_le_zero _)
    | succ more =>
      apply extends_consult
      intro rule chart result run
      rw [run_tryRule_eq_settle] at run ⊢
      obtain ⟨inner, chosen, same⟩ := Option.map_eq_some_iff.1 run
      have deeper := inductionHypothesis (Nat.le_of_succ_le_succ le)
      rw [extends_firstMatch deeper _ _ _ chosen, Option.map_some, same]

end Allowances

/-- The calls that matching parts makes, each with the chart that it finds. -/
inductive PartsCall (attempt : Attempt → Matcher α (Option (Match α))) :
    List RuleId → Nat → Chart α → Attempt → Chart α → Prop where
  | here {part earlier stop chart} :
      PartsCall attempt (part :: earlier) stop chart ⟨part, stop⟩ chart
  | earlier {part earlier stop chart found middle key inner} :
      (attempt ⟨part, stop⟩).run chart = some (some found, middle) →
      found.start < stop →
      PartsCall attempt earlier found.start middle key inner →
      PartsCall attempt (part :: earlier) stop chart key inner

/-- The calls that trying the alternatives makes, each with the chart that it finds. -/
inductive ChoiceCall (attempt : Attempt → Matcher α (Option (Match α))) (tokens : List Token)
    (stop : Nat) : List (Alternative α) → Chart α → Attempt → Chart α → Prop where
  | first {parts action rest chart key inner} :
      PartsCall attempt parts.reverse stop chart key inner →
      ChoiceCall attempt tokens stop (.sequence parts action :: rest) chart key inner
  | later {alternative rest chart middle key inner} :
      (matchAlternative attempt tokens stop alternative).run chart = some (none, middle) →
      ChoiceCall attempt tokens stop rest middle key inner →
      ChoiceCall attempt tokens stop (alternative :: rest) chart key inner

section Calls

variable {attempt : Attempt → Matcher α (Option (Match α))} {tokens : List Token} {stop : Nat}
  {chart inner : Chart α} {key : Attempt}

theorem PartsCall.place {parts : List RuleId}
    (each : ∀ key, Leads (fun chart later => later.underWay = chart.underWay) (attempt key))
    (call : PartsCall attempt parts stop chart key inner) :
    inner.underWay = chart.underWay ∧ key.stop ≤ stop := by
  induction call with
  | here => exact ⟨rfl, le_rfl⟩
  | earlier run something _ inductionHypothesis =>
    obtain ⟨same, le⟩ := inductionHypothesis
    exact ⟨same.trans (each _ _ _ _ run), le.trans something.le⟩

theorem ChoiceCall.place {alternatives : List (Alternative α)}
    (each : ∀ key, Leads (fun chart later => later.underWay = chart.underWay) (attempt key))
    (call : ChoiceCall attempt tokens stop alternatives chart key inner) :
    inner.underWay = chart.underWay ∧ key.stop ≤ stop := by
  induction call with
  | first call => exact call.place each
  | later run _ inductionHypothesis =>
    obtain ⟨same, le⟩ := inductionHypothesis
    have before := (evolution_underWay false).leads_matchAlternative each _ _ _ _ run
    exact ⟨same.trans before, le⟩

end Calls

end Matcher

namespace Grammar

/-- The call passes: neither the chart nor the re-entry check answers it, so the rule is tried. -/
structure Passes (grammar : Grammar α) (remembering : Bool) (chart : Chart α) (key : Attempt)
    (rule : Rule α) : Prop where
  unknown : remembering = true → chart.answers[key]? = none
  outside : key ∉ chart.underWay
  found : grammar.rule? key.rule = some rule

/-- The calls of a match, each with the number of calls around it that have passed and with the
chart that it finds. -/
inductive Calls (grammar : Grammar α) (remembering : Bool) (tokens : List Token)
    (outermost : Attempt) : Nat → Attempt → Chart α → Prop where
  | outermost : Calls grammar remembering tokens outermost 0 outermost {}
  | nested {depth key chart rule next inner} :
      Calls grammar remembering tokens outermost depth key chart →
      grammar.Passes remembering chart key rule →
      ChoiceCall
        (attempt grammar tokens remembering (grammar.allowance tokens - (depth + 1))) tokens key.stop
        rule.alternatives (chart.enter key) next inner →
      Calls grammar remembering tokens outermost (depth + 1) next inner

variable {grammar : Grammar α} {remembering : Bool} {tokens : List Token} {outermost key : Attempt}
  {depth : Nat} {chart : Chart α} {rule : Rule α}

theorem Calls.underWay (call : grammar.Calls remembering tokens outermost depth key chart)
    (within : outermost.stop ≤ tokens.length) :
    chart.underWay.length = depth ∧ grammar.Stack tokens chart.underWay ∧
      key.stop ≤ tokens.length := by
  induction call with
  | outermost => exact ⟨rfl, .empty, within⟩
  | nested _ passes inner inductionHypothesis =>
    obtain ⟨length, stack, keyWithin⟩ := inductionHypothesis
    obtain ⟨same, le⟩ := inner.place ((evolution_underWay remembering).leads_attempt _)
    rw [same]
    refine ⟨?_, stack.push passes.outside passes.found keyWithin, le.trans keyWithin⟩
    rw [Chart.enter, List.length_cons, length]

/-- Calls that pass never nest deeper than there are rules times places. -/
theorem Calls.depth_lt (call : grammar.Calls remembering tokens outermost depth key chart)
    (within : outermost.stop ≤ tokens.length) (passes : grammar.Passes remembering chart key rule) :
    depth + 1 ≤ grammar.allowance tokens := by
  obtain ⟨length, stack, keyWithin⟩ := call.underWay within
  have deeper := (stack.push passes.outside passes.found keyWithin).length_le
  rwa [List.length_cons, length] at deeper

/-- What was tried with memory could be under way together: each attempt is tried once. -/
theorem stack_tried {answer : Option (Match α)} (within : key.stop ≤ tokens.length)
    (run : grammar.runAt true tokens key = some (answer, chart)) :
    grammar.Stack tokens chart.tried := by
  constructor
  · obtain ⟨added, tried, distinct, -⟩ := (evolution_fresh.leads_attempt _ key _ _ _ run).tried
    rwa [tried, show Chart.tried ({} : Chart α) = [] from rfl, List.append_nil]
  · intro other member
    obtain ⟨event, happened, told⟩ := List.mem_filterMap.1 member
    obtain ⟨_, _, again, -, held⟩ :=
      (Invariant.inRange grammar tokens true).exists_run within within
    cases run.symm.trans again
    exact held.events event happened other told

theorem records_matchLogged {id : RuleId} {answer : Option (Match α)}
    (run : grammar.run true id tokens = some (answer, chart)) :
    (grammar.matchLogged id tokens).records =
      chart.events.reverse.map fun event => ⟨event.severity, event.message grammar⟩ := by
  simp [matchLogged, matchRule, run]

/-- The trace records of a match are those of the attempts that were tried. -/
theorem length_traces {id : RuleId} {answer : Option (Match α)}
    (run : grammar.run true id tokens = some (answer, chart)) :
    ((grammar.matchLogged id tokens).records.filter (·.severity = .trace)).length =
      chart.tried.length := by
  rw [records_matchLogged run, List.filter_map, List.length_map, List.filter_reverse, List.length_reverse,
    Chart.tried, List.length_filterMap_eq_countP, List.countP_eq_length_filter]
  congr 2
  funext event
  simp [Event.severity_eq_trace_iff]

/-- Matching comes to an answer, the same with every larger allowance, and calls that pass nest no
deeper than there are rules times places. With memory no attempt is tried twice, so there are no
more trace records than that. -/
theorem run_bounded (grammar : Grammar α) (tokens : List Token) (id : RuleId) :
    (∀ remembering, ∃ answer chart, grammar.run remembering id tokens = some (answer, chart) ∧
      (∀ allowance, grammar.rules.length * (tokens.length + 1) ≤ allowance →
        (attempt grammar tokens remembering allowance ⟨id, tokens.length⟩).run {} =
          some (answer, chart)) ∧
      (remembering = true → chart.tried.Nodup)) ∧
    (∀ remembering depth key chart rule,
      grammar.Calls remembering tokens ⟨id, tokens.length⟩ depth key chart →
      grammar.Passes remembering chart key rule →
      depth + 1 ≤ grammar.rules.length * (tokens.length + 1)) ∧
    ((grammar.matchLogged id tokens).records.filter (·.severity = .trace)).length ≤
      grammar.rules.length * (tokens.length + 1) := by
  have within : (⟨id, tokens.length⟩ : Attempt).stop ≤ tokens.length := le_rfl
  have returns (remembering : Bool) :
      ∃ answer chart, grammar.run remembering id tokens = some (answer, chart) := by
    obtain ⟨answer, chart, run, -⟩ :=
      (Invariant.inRange grammar tokens remembering).exists_run within within
    exact ⟨answer, chart, run⟩
  refine ⟨?_, ?_, ?_⟩
  · intro remembering
    obtain ⟨answer, chart, run⟩ := returns remembering
    refine ⟨answer, chart, run, ?_, ?_⟩
    · intro allowance enough
      exact extends_attempt enough _ _ _ run
    · rintro rfl
      exact (stack_tried within run).distinct
  · intro remembering depth key chart rule call passes
    exact call.depth_lt within passes
  · obtain ⟨answer, chart, run⟩ := returns true
    rw [length_traces run]
    exact (stack_tried within run).length_le

end Grammar

end DiceCalculator
