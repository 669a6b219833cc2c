import DiceCalculator.Grammar.Matching
import Mathlib.Data.Option.Basic

/-!
# Outcomes of ordered choice

What a rule comes to depends on the attempts that its sequences make. Here that
dependence is stated apart from the chart: `answered` tells which answers an
attempt can have, the outcomes of parts and alternatives follow, and so do the
attempts that are reached on the way. With a function for the answers there is
exactly one outcome, which `choose` computes.
-/

namespace DiceCalculator.Matcher

variable {α : Type}

/-- The match of one token of the kind before `stop`. -/
def terminalMatch (tokens : List Token) (stop : Nat) (kind : Token.Kind) (action : α) :
    Option (Match α) := do
  let token ← tokenBefore tokens stop
  if token.kind = kind then some ⟨stop - 1, .leaf action token⟩ else none

/-- The match of one token of the text before `stop`. -/
def literalMatch (tokens : List Token) (stop : Nat) (text : String) : Option (Match α) := do
  let token ← tokenBefore tokens stop
  if token.text = text then some ⟨stop - 1, .literal token⟩ else none

theorem tokenBefore_eq_some_iff {tokens : List Token} {stop : Nat} {token : Token} :
    tokenBefore tokens stop = some token ↔ ∃ start, stop = start + 1 ∧ tokens[start]? = some token := by
  cases stop <;> simp [tokenBefore]

theorem terminalMatch_eq_some_iff {tokens : List Token} {stop : Nat} {kind : Token.Kind}
    {action : α} {found : Match α} :
    terminalMatch tokens stop kind action = some found ↔
      ∃ start token, stop = start + 1 ∧ tokens[start]? = some token ∧ token.kind = kind ∧
        found = ⟨start, .leaf action token⟩ := by
  constructor
  · intro matched
    obtain ⟨token, before, taken⟩ := Option.bind_eq_some_iff.1 matched
    obtain ⟨start, rfl, present⟩ := tokenBefore_eq_some_iff.1 before
    obtain ⟨fits, same⟩ := Option.ite_none_right_eq_some.1 taken
    exact ⟨start, token, rfl, present, fits, (Option.some.inj same).symm⟩
  · rintro ⟨start, token, rfl, present, fits, rfl⟩
    simp [terminalMatch, tokenBefore, present, fits]

theorem literalMatch_eq_some_iff {tokens : List Token} {stop : Nat} {text : String}
    {found : Match α} :
    literalMatch tokens stop text = some found ↔
      ∃ start token, stop = start + 1 ∧ tokens[start]? = some token ∧ token.text = text ∧
        found = ⟨start, .literal token⟩ := by
  constructor
  · intro matched
    obtain ⟨token, before, taken⟩ := Option.bind_eq_some_iff.1 matched
    obtain ⟨start, rfl, present⟩ := tokenBefore_eq_some_iff.1 before
    obtain ⟨fits, same⟩ := Option.ite_none_right_eq_some.1 taken
    exact ⟨start, token, rfl, present, fits, (Option.some.inj same).symm⟩
  · rintro ⟨start, token, rfl, present, fits, rfl⟩
    simp [literalMatch, tokenBefore, present, fits]

/-- The match of a sequence whose parts came to the outcome. -/
def sequenceMatch (action : α) (outcome : Option (Nat × List (Tree α))) : Option (Match α) :=
  outcome.map fun (start, trees) => ⟨start, .branch action trees⟩

/-- Outcomes of parts, the last one first, before `stop`. -/
inductive PartsOutcome (answered : Attempt → Option (Match α) → Prop) :
    List RuleId → Nat → List (Tree α) → Option (Nat × List (Tree α)) → Prop where
  | done {stop trees} : PartsOutcome answered [] stop trees (some (stop, trees))
  | failed {part earlier stop trees} :
      answered ⟨part, stop⟩ none →
      PartsOutcome answered (part :: earlier) stop trees none
  | tookNothing {part earlier stop trees} {found : Match α} :
      answered ⟨part, stop⟩ (some found) →
      ¬found.start < stop →
      PartsOutcome answered (part :: earlier) stop trees none
  | took {part earlier stop trees outcome} {found : Match α} :
      answered ⟨part, stop⟩ (some found) →
      found.start < stop →
      PartsOutcome answered earlier found.start (found.tree :: trees) outcome →
      PartsOutcome answered (part :: earlier) stop trees outcome

/-- Outcomes of one alternative before `stop`. -/
inductive AlternativeOutcome (answered : Attempt → Option (Match α) → Prop)
    (tokens : List Token) (stop : Nat) : Alternative α → Option (Match α) → Prop where
  | terminal {kind action} :
      AlternativeOutcome answered tokens stop (.terminal kind action)
        (terminalMatch tokens stop kind action)
  | literal {text} :
      AlternativeOutcome answered tokens stop (.literal text) (literalMatch tokens stop text)
  | sequence {parts action outcome} :
      PartsOutcome answered parts.reverse stop [] outcome →
      AlternativeOutcome answered tokens stop (.sequence parts action)
        (sequenceMatch action outcome)

/-- Outcomes of alternatives in the order of their preference. -/
inductive ChoiceOutcome (answered : Attempt → Option (Match α) → Prop)
    (tokens : List Token) (stop : Nat) : List (Alternative α) → Option (Match α) → Prop where
  | none : ChoiceOutcome answered tokens stop [] none
  | first {alternative rest found} :
      AlternativeOutcome answered tokens stop alternative (some found) →
      ChoiceOutcome answered tokens stop (alternative :: rest) (some found)
  | later {alternative rest answer} :
      AlternativeOutcome answered tokens stop alternative none →
      ChoiceOutcome answered tokens stop rest answer →
      ChoiceOutcome answered tokens stop (alternative :: rest) answer

/-- The attempts that matching the parts makes. -/
inductive PartsReach (answered : Attempt → Option (Match α) → Prop) :
    List RuleId → Nat → Attempt → Prop where
  | here {part earlier stop} : PartsReach answered (part :: earlier) stop ⟨part, stop⟩
  | earlier {part earlier stop key} {found : Match α} :
      answered ⟨part, stop⟩ (some found) →
      found.start < stop →
      PartsReach answered earlier found.start key →
      PartsReach answered (part :: earlier) stop key

/-- The attempts that trying the alternatives makes. -/
inductive ChoiceReach (answered : Attempt → Option (Match α) → Prop)
    (tokens : List Token) (stop : Nat) : List (Alternative α) → Attempt → Prop where
  | first {parts action rest key} :
      PartsReach answered parts.reverse stop key →
      ChoiceReach answered tokens stop (.sequence parts action :: rest) key
  | later {alternative rest key} :
      AlternativeOutcome answered tokens stop alternative none →
      ChoiceReach answered tokens stop rest key →
      ChoiceReach answered tokens stop (alternative :: rest) key

section Places

variable {answered : Attempt → Option (Match α) → Prop} {tokens : List Token} {stop : Nat}

/-- Only the part that is matched first is tried at the place where the sequence ends. -/
theorem PartsReach.place {parts : List RuleId} {key : Attempt}
    (reached : PartsReach answered parts stop key) :
    parts.head? = some key.rule ∧ key.stop = stop ∨ key.rule ∈ parts ∧ key.stop < stop := by
  induction reached with
  | here => exact .inl ⟨rfl, rfl⟩
  | earlier _ shorter _ inductionHypothesis =>
    right
    rcases inductionHypothesis with ⟨head, same⟩ | ⟨member, less⟩
    · exact ⟨List.mem_cons_of_mem _ (List.mem_of_head? head), by omega⟩
    · exact ⟨List.mem_cons_of_mem _ member, by omega⟩

theorem ChoiceReach.place {alternatives : List (Alternative α)} {key : Attempt}
    (reached : ChoiceReach answered tokens stop alternatives key) :
    ∃ parts action, .sequence parts action ∈ alternatives ∧
      (parts.getLast? = some key.rule ∧ key.stop = stop ∨ key.rule ∈ parts ∧ key.stop < stop) := by
  induction reached with
  | @first parts action rest key reached =>
    refine ⟨parts, action, List.mem_cons_self, ?_⟩
    simpa [List.head?_reverse] using reached.place
  | later _ _ inductionHypothesis =>
    obtain ⟨parts, action, member, place⟩ := inductionHypothesis
    exact ⟨parts, action, List.mem_cons_of_mem _ member, place⟩

theorem ChoiceReach.stop_le {alternatives : List (Alternative α)} {key : Attempt}
    (reached : ChoiceReach answered tokens stop alternatives key) : key.stop ≤ stop := by
  obtain ⟨_, _, _, ⟨_, same⟩ | ⟨_, less⟩⟩ := reached.place <;> omega

/-- A match is the outcome of one of the alternatives. -/
theorem ChoiceOutcome.exists_alternative {alternatives : List (Alternative α)} {found : Match α}
    (outcome : ChoiceOutcome answered tokens stop alternatives (some found)) :
    ∃ alternative ∈ alternatives, AlternativeOutcome answered tokens stop alternative (some found) := by
  generalize asked : some found = answer at outcome
  induction outcome with
  | none => cases asked
  | first chosen =>
    cases asked
    exact ⟨_, List.mem_cons_self, chosen⟩
  | later _ _ inductionHypothesis =>
    obtain ⟨alternative, member, chosen⟩ := inductionHypothesis asked
    exact ⟨alternative, List.mem_cons_of_mem _ member, chosen⟩

end Places

section Functions

/-- The outcome of parts, the last one first, before `stop`. -/
def chooseParts (answers : Attempt → Option (Match α)) :
    List RuleId → Nat → List (Tree α) → Option (Nat × List (Tree α))
  | [], stop, trees => some (stop, trees)
  | part :: earlier, stop, trees =>
    match answers ⟨part, stop⟩ with
    | none => none
    | some found =>
      if found.start < stop then chooseParts answers earlier found.start (found.tree :: trees)
      else none

/-- The outcome of one alternative before `stop`. -/
def chooseAlternative (answers : Attempt → Option (Match α)) (tokens : List Token) (stop : Nat) :
    Alternative α → Option (Match α)
  | .terminal kind action => terminalMatch tokens stop kind action
  | .literal text => literalMatch tokens stop text
  | .sequence parts action => sequenceMatch action (chooseParts answers parts.reverse stop [])

/-- The outcome of the first alternative that has a match. -/
def chooseFirst (answers : Attempt → Option (Match α)) (tokens : List Token) (stop : Nat)
    (alternatives : List (Alternative α)) : Option (Match α) :=
  alternatives.findSome? (chooseAlternative answers tokens stop)

variable {answers others : Attempt → Option (Match α)} {tokens : List Token} {stop : Nat}

theorem partsOutcome_iff {parts : List RuleId} {trees : List (Tree α)}
    {outcome : Option (Nat × List (Tree α))} :
    PartsOutcome (fun key answer => answers key = answer) parts stop trees outcome ↔
      chooseParts answers parts stop trees = outcome := by
  constructor
  · intro given
    induction given with
    | done => rfl
    | failed answer => simp [chooseParts, answer]
    | tookNothing answer nothing => simp [chooseParts, answer, nothing]
    | took answer something _ inductionHypothesis =>
      simp [chooseParts, answer, something, inductionHypothesis]
  · rintro rfl
    induction parts generalizing stop trees with
    | nil => exact .done
    | cons part earlier inductionHypothesis =>
      rw [chooseParts]
      cases answer : answers ⟨part, stop⟩ with
      | none => exact .failed answer
      | some found =>
        by_cases something : found.start < stop
        · simp only [something, ↓reduceIte]
          exact .took answer something inductionHypothesis
        · simp only [something, ↓reduceIte]
          exact .tookNothing answer something

theorem alternativeOutcome_iff {alternative : Alternative α} {outcome : Option (Match α)} :
    AlternativeOutcome (fun key answer => answers key = answer) tokens stop alternative outcome ↔
      chooseAlternative answers tokens stop alternative = outcome := by
  constructor
  · intro given
    cases given with
    | terminal => rfl
    | literal => rfl
    | sequence parts => rw [chooseAlternative, partsOutcome_iff.1 parts]
  · rintro rfl
    cases alternative with
    | terminal => exact .terminal
    | literal => exact .literal
    | sequence => exact .sequence (partsOutcome_iff.2 rfl)

theorem choiceOutcome_iff {alternatives : List (Alternative α)} {outcome : Option (Match α)} :
    ChoiceOutcome (fun key answer => answers key = answer) tokens stop alternatives outcome ↔
      chooseFirst answers tokens stop alternatives = outcome := by
  constructor
  · intro given
    induction given with
    | none => rfl
    | first chosen => simp [chooseFirst, alternativeOutcome_iff.1 chosen]
    | later failed _ inductionHypothesis =>
      rw [chooseFirst, List.findSome?_cons, alternativeOutcome_iff.1 failed]
      exact inductionHypothesis
  · rintro rfl
    induction alternatives with
    | nil => exact .none
    | cons alternative rest inductionHypothesis =>
      rw [chooseFirst, List.findSome?_cons]
      cases answer : chooseAlternative answers tokens stop alternative with
      | none => exact .later (alternativeOutcome_iff.2 answer) inductionHypothesis
      | some found => exact .first (alternativeOutcome_iff.2 answer)

theorem PartsOutcome.mono {answered others : Attempt → Option (Match α) → Prop}
    {parts : List RuleId} {trees : List (Tree α)} {outcome : Option (Nat × List (Tree α))}
    (given : PartsOutcome answered parts stop trees outcome)
    (implies : ∀ key answer, PartsReach answered parts stop key → answered key answer →
      others key answer) :
    PartsOutcome others parts stop trees outcome := by
  induction given with
  | done => exact .done
  | failed answer => exact .failed (implies _ _ .here answer)
  | tookNothing answer nothing => exact .tookNothing (implies _ _ .here answer) nothing
  | took answer something _ inductionHypothesis =>
    refine .took (implies _ _ .here answer) something (inductionHypothesis ?_)
    exact fun key later reached => implies key later (.earlier answer something reached)

theorem AlternativeOutcome.mono {answered others : Attempt → Option (Match α) → Prop}
    {alternative : Alternative α} {rest : List (Alternative α)} {outcome : Option (Match α)}
    (given : AlternativeOutcome answered tokens stop alternative outcome)
    (implies : ∀ key answer, ChoiceReach answered tokens stop (alternative :: rest) key →
      answered key answer → others key answer) :
    AlternativeOutcome others tokens stop alternative outcome := by
  cases given with
  | terminal => exact .terminal
  | literal => exact .literal
  | sequence parts =>
    exact .sequence (parts.mono fun key answer reached => implies key answer (.first reached))

/-- Only the answers of the attempts that are reached matter. -/
theorem ChoiceOutcome.mono {answered others : Attempt → Option (Match α) → Prop}
    {alternatives : List (Alternative α)} {outcome : Option (Match α)}
    (given : ChoiceOutcome answered tokens stop alternatives outcome)
    (implies : ∀ key answer, ChoiceReach answered tokens stop alternatives key →
      answered key answer → others key answer) :
    ChoiceOutcome others tokens stop alternatives outcome := by
  induction given with
  | none => exact .none
  | first chosen => exact .first (chosen.mono implies)
  | later failed _ inductionHypothesis =>
    refine .later (failed.mono implies) (inductionHypothesis ?_)
    exact fun key answer reached => implies key answer (.later failed reached)

end Functions

end DiceCalculator.Matcher
