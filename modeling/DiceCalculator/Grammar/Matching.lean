import DiceCalculator.Grammar.Chart

/-!
# Matching from the end

A rule is matched against the tokens before a place and takes some of the last
of them; the tokens in front are not looked at. Alternatives are tried in
order and the first that matches is the answer, for good. A sequence is matched
from its last part to its first, each part before the tokens that the later
ones took; it fails if a part takes nothing.

A rule that is tried again at a place where it is under way does not match
there. This makes every recursion end: the attempts under way at one time are
different from one another, and there are only as many attempts as rules times
places. That number is the allowance `attempt` starts with, and running out of
it is an outcome of its own (`none` of `Matcher`), so that it cannot be taken
for a failed match.
-/

namespace DiceCalculator

/-- A computation on a chart; it has no outcome if the allowance of nested attempts is used up. -/
abbrev Matcher (α β : Type) := StateT (Chart α) Option β

namespace Matcher

variable {α : Type}

/-- The answer of the first alternative that has one. -/
def firstMatch (attemptOne : Alternative α → Matcher α (Option (Match α))) :
    List (Alternative α) → Matcher α (Option (Match α))
  | [] => pure none
  | alternative :: rest => do
    match ← attemptOne alternative with
    | some found => pure (some found)
    | none => firstMatch attemptOne rest

/-- Matches the parts of a sequence, the last one first, before `stop`. The answer is where the
first part begins, and the trees of all parts followed by the given ones. -/
def matchParts (attempt : Attempt → Matcher α (Option (Match α))) :
    List RuleId → Nat → List (Tree α) → Matcher α (Option (Nat × List (Tree α)))
  | [], stop, trees => pure (some (stop, trees))
  | part :: earlier, stop, trees => do
    match ← attempt ⟨part, stop⟩ with
    | none => pure none
    | some found =>
      if found.start < stop then
        matchParts attempt earlier found.start (found.tree :: trees)
      else
        modify (·.note (.tookNothing part))
        pure none

def tokenBefore (tokens : List Token) : Nat → Option Token
  | 0 => none
  | before + 1 => tokens[before]?

def matchAlternative (attempt : Attempt → Matcher α (Option (Match α))) (tokens : List Token)
    (stop : Nat) : Alternative α → Matcher α (Option (Match α))
  | .terminal kind action =>
    pure do
      let token ← tokenBefore tokens stop
      if token.kind = kind then some ⟨stop - 1, .leaf action token⟩ else none
  | .literal text =>
    pure do
      let token ← tokenBefore tokens stop
      if token.text = text then some ⟨stop - 1, .literal token⟩ else none
  | .sequence parts action => do
    let found ← matchParts attempt parts.reverse stop []
    return found.map fun (start, trees) => ⟨start, .branch action trees⟩

def eventOf (attempt : Attempt) : Option (Match α) → Event
  | some found => .matched attempt.rule (attempt.stop - found.start) attempt.stop
  | none => .failed attempt.rule attempt.stop

/-- Answers an attempt without trying it where that can be done: from the chart if `remembering`,
and with a failure if it is under way or there is no such rule. Otherwise tries the rule. -/
def consult (grammar : Grammar α) (remembering : Bool) (key : Attempt)
    (tryRule : Rule α → Matcher α (Option (Match α))) : Matcher α (Option (Match α)) := do
  let chart ← get
  match if remembering then chart.answers[key]? else none with
  | some answer => pure answer
  | none =>
    if key ∈ chart.underWay then
      modify (·.note (.reentered key.rule key.stop))
      pure none
    else
      match grammar.rule? key.rule with
      | none => pure none
      | some rule => tryRule rule

/-- Tries the alternatives of a rule while its attempt is under way, and notes the answer. -/
def tryRule (attempt : Attempt → Matcher α (Option (Match α))) (tokens : List Token)
    (remembering : Bool) (key : Attempt) (rule : Rule α) : Matcher α (Option (Match α)) := do
  modify (·.enter key)
  let answer ← firstMatch (matchAlternative attempt tokens key.stop) rule.alternatives
  modify fun chart => (chart.leave key).note (eventOf key answer)
  if remembering then modify (·.remember key answer)
  pure answer

/-- Tries a rule at a place. Nested attempts may go `allowance` deep. -/
def attempt (grammar : Grammar α) (tokens : List Token) (remembering : Bool) :
    Nat → Attempt → Matcher α (Option (Match α))
  | 0, key => consult grammar remembering key fun _ => failure
  | allowance + 1, key =>
    consult grammar remembering key
      (tryRule (attempt grammar tokens remembering allowance) tokens remembering key)

theorem run_consult (grammar : Grammar α) (remembering : Bool) (key : Attempt)
    (tryRule : Rule α → Matcher α (Option (Match α))) (chart : Chart α) :
    (consult grammar remembering key tryRule).run chart =
      match if remembering then chart.answers[key]? else none with
      | some answer => some (answer, chart)
      | none =>
        if key ∈ chart.underWay then
          some (none, chart.note (.reentered key.rule key.stop))
        else
          match grammar.rule? key.rule with
          | none => some (none, chart)
          | some rule => (tryRule rule).run chart := by
  simp only [consult, StateT.run_bind, StateT.run_get, Option.pure_def, Option.bind_eq_bind,
    Option.bind_some]
  cases (if remembering then chart.answers[key]? else none) with
  | some answer => rfl
  | none =>
    by_cases h : key ∈ chart.underWay
    · simp only [h, ↓reduceIte]
      rfl
    · simp only [h, ↓reduceIte]
      cases grammar.rule? key.rule <;> rfl

theorem run_tryRule (attempt : Attempt → Matcher α (Option (Match α))) (tokens : List Token)
    (remembering : Bool) (key : Attempt) (rule : Rule α) (chart : Chart α) :
    (tryRule attempt tokens remembering key rule).run chart =
      ((firstMatch (matchAlternative attempt tokens key.stop) rule.alternatives).run
        (chart.enter key)).map fun (answer, chart) =>
          let chart := (chart.leave key).note (eventOf key answer)
          (answer, if remembering then chart.remember key answer else chart) := by
  simp only [tryRule, StateT.run_bind]
  change ((firstMatch (matchAlternative attempt tokens key.stop) rule.alternatives).run
    (chart.enter key)).bind _ = _
  cases (firstMatch (matchAlternative attempt tokens key.stop) rule.alternatives).run
    (chart.enter key) with
  | none => rfl
  | some found => cases remembering <;> rfl

theorem run_firstMatch_cons (attemptOne : Alternative α → Matcher α (Option (Match α)))
    (alternative : Alternative α) (rest : List (Alternative α)) (chart : Chart α) :
    (firstMatch attemptOne (alternative :: rest)).run chart =
      ((attemptOne alternative).run chart).bind fun (answer, chart) =>
        match answer with
        | some found => some (some found, chart)
        | none => (firstMatch attemptOne rest).run chart := by
  simp only [firstMatch, StateT.run_bind]
  cases (attemptOne alternative).run chart with
  | none => rfl
  | some found => rcases found with ⟨_ | found, later⟩ <;> rfl

theorem run_matchParts_cons (attempt : Attempt → Matcher α (Option (Match α))) (part : RuleId)
    (earlier : List RuleId) (stop : Nat) (trees : List (Tree α)) (chart : Chart α) :
    (matchParts attempt (part :: earlier) stop trees).run chart =
      ((attempt ⟨part, stop⟩).run chart).bind fun (answer, chart) =>
        match answer with
        | none => some (none, chart)
        | some found =>
          if found.start < stop then
            (matchParts attempt earlier found.start (found.tree :: trees)).run chart
          else some (none, chart.note (.tookNothing part)) := by
  simp only [matchParts, StateT.run_bind]
  cases (attempt ⟨part, stop⟩).run chart with
  | none => rfl
  | some found =>
    rcases found with ⟨_ | found, later⟩
    · rfl
    · by_cases h : found.start < stop <;> simp [h]

end Matcher

/-- What matching came to, and what happened on the way, the oldest first. -/
structure Matching (α : Type) where
  found : Option (Match α) := none
  events : List Event := []

namespace Grammar

variable {α : Type}

/-- As many nested attempts as there are attempts at all. -/
def allowance (grammar : Grammar α) (tokens : List Token) : Nat :=
  grammar.rules.length * (tokens.length + 1)

/-- Matches a rule before the end of the tokens, beginning with an empty chart. -/
def run (grammar : Grammar α) (remembering : Bool) (id : RuleId) (tokens : List Token) :
    Option (Option (Match α) × Chart α) :=
  (Matcher.attempt grammar tokens remembering (grammar.allowance tokens) ⟨id, tokens.length⟩).run {}

/-- Matches a rule before the end of the tokens. -/
def matchRule (grammar : Grammar α) (id : RuleId) (tokens : List Token) : Matching α :=
  match grammar.run true id tokens with
  | some (found, chart) => ⟨found, chart.events.reverse⟩
  | none => {}

def parse (grammar : Grammar α) (tokens : List Token) : Matching α :=
  grammar.matchRule grammar.root tokens

end Grammar

end DiceCalculator
