import DiceCalculator.Proofs.Matching.Occurrence
import DiceCalculator.Proofs.Matching.OrderedChoice

/-!
# Answers that cover a derivation

Ordered choice never takes back an answer, so it may pass by a derivation that
the grammar has. An answer covers a derivation that ends at the same place if
it is this derivation or takes more tokens. What covers a derivation of the
first part of a sequence covers one of the sequence, as long as the later parts
are matched as they are derived; and an alternative that covers is reached if
those before it do not match, or match even more.
-/

namespace DiceCalculator

open Matcher

variable {α : Type}

namespace Matcher

variable {answers : Attempt → Option (Match α)} {tokens : List Token} {start middle stop : Nat}
  {part last other : RuleId} {parts earlier later more : List RuleId} {action : α} {tree : Tree α}
  {trees : List (Tree α)} {found : Match α} {alternative : Alternative α}
  {rest : List (Alternative α)}

/-- The answer is the derivation from `start` on, or takes more than that. -/
def Covers (answer : Option (Match α)) (start : Nat) (tree : Tree α) : Prop :=
  ∃ found, answer = some found ∧ (found.start < start ∨ found = ⟨start, tree⟩)

theorem Covers.exists_start_le {answer : Option (Match α)} (covers : Covers answer start tree) :
    ∃ found, answer = some found ∧ found.start ≤ start := by
  obtain ⟨found, answered, less | rfl⟩ := covers
  · exact ⟨found, answered, less.le⟩
  · exact ⟨_, answered, le_rfl⟩

theorem covers_of_eq {answer : Option (Match α)} (exactly : answer = some ⟨start, tree⟩) :
    Covers answer start tree :=
  ⟨_, exactly, .inr rfl⟩

theorem covers_first (covers : Covers (chooseAlternative answers tokens stop alternative) start tree) :
    Covers (chooseFirst answers tokens stop (alternative :: rest)) start tree := by
  obtain ⟨found, chosen, enough⟩ := covers
  exact ⟨found, by simp [chooseFirst, chosen], enough⟩

theorem covers_after_none
    (failed : chooseAlternative answers tokens stop alternative = none)
    (covers : Covers (chooseFirst answers tokens stop rest) start tree) :
    Covers (chooseFirst answers tokens stop (alternative :: rest)) start tree := by
  rw [chooseFirst, List.findSome?_cons, failed]
  exact covers

theorem covers_later
    (before : ∀ found, chooseAlternative answers tokens stop alternative = some found →
      found.start < start)
    (covers : Covers (chooseFirst answers tokens stop rest) start tree) :
    Covers (chooseFirst answers tokens stop (alternative :: rest)) start tree := by
  cases chosen : chooseAlternative answers tokens stop alternative with
  | some found => exact ⟨found, by simp [chooseFirst, chosen], .inl (before found chosen)⟩
  | none => exact covers_after_none chosen covers

section Tokens

variable {token : Token} {kind : Token.Kind} {text : String}

theorem choose_terminal (occurs : Occurs tokens [token] start stop) (fits : token.kind = kind) :
    chooseAlternative answers tokens stop (.terminal kind action) =
      some ⟨start, .leaf action token⟩ := by
  obtain ⟨rfl, present⟩ := occurs.exists_place
  exact terminalMatch_eq_some_iff.2 ⟨start, token, rfl, present, fits, rfl⟩

theorem choose_terminal_eq_none (occurs : Occurs tokens [token] start stop)
    (other : token.kind ≠ kind) :
    chooseAlternative answers tokens stop (.terminal kind action) = none := by
  obtain ⟨rfl, present⟩ := occurs.exists_place
  simp [chooseAlternative, terminalMatch, tokenBefore, present, other]

theorem choose_literal (occurs : Occurs tokens [token] start stop) (fits : token.text = text) :
    chooseAlternative answers tokens stop (.literal text) = some ⟨start, .literal token⟩ := by
  obtain ⟨rfl, present⟩ := occurs.exists_place
  exact literalMatch_eq_some_iff.2 ⟨start, token, rfl, present, fits, rfl⟩

theorem choose_literal_eq_none (occurs : Occurs tokens [token] start stop)
    (other : token.text ≠ text) :
    chooseAlternative answers tokens stop (.literal text) = none := by
  obtain ⟨rfl, present⟩ := occurs.exists_place
  simp [chooseAlternative, literalMatch, tokenBefore, present, other]

end Tokens

theorem chooseParts_cons (answered : answers ⟨part, stop⟩ = some ⟨middle, tree⟩)
    (less : middle < stop) :
    chooseParts answers (part :: earlier) stop trees =
      chooseParts answers earlier middle (tree :: trees) := by
  simp [chooseParts, answered, less]

theorem chooseParts_append (parts earlier : List RuleId) (stop : Nat) (trees : List (Tree α)) :
    chooseParts answers (parts ++ earlier) stop trees =
      (chooseParts answers parts stop trees).bind fun (middle, trees) =>
        chooseParts answers earlier middle trees := by
  induction parts generalizing stop trees with
  | nil => rfl
  | cons part parts inductionHypothesis =>
    rw [List.cons_append, chooseParts, chooseParts]
    cases answers ⟨part, stop⟩ with
    | none => rfl
    | some found =>
      by_cases less : found.start < stop
      · simp only [less, ↓reduceIte, inductionHypothesis]
      · simp only [less, ↓reduceIte, Option.bind_none]

theorem exists_of_chooseParts_cons {result : Nat × List (Tree α)}
    (chosen : chooseParts answers (part :: earlier) stop trees = some result) :
    ∃ found, answers ⟨part, stop⟩ = some found ∧ found.start < stop ∧
      chooseParts answers earlier found.start (found.tree :: trees) = some result := by
  rw [chooseParts] at chosen
  cases answered : answers ⟨part, stop⟩ with
  | none => simp [answered] at chosen
  | some found =>
    by_cases less : found.start < stop
    · simp only [answered, less, ↓reduceIte] at chosen
      exact ⟨found, rfl, less, chosen⟩
    · simp [answered, less] at chosen

theorem chooseParts_eq_none (failed : answers ⟨part, stop⟩ = none) :
    chooseParts answers (part :: earlier) stop trees = none := by
  simp [chooseParts, failed]

theorem sequence_eq_none (shape : parts.reverse = last :: earlier)
    (failed : answers ⟨last, stop⟩ = none) :
    chooseAlternative answers tokens stop (.sequence parts action) = none := by
  rw [chooseAlternative, shape, chooseParts_eq_none failed]
  rfl

theorem sequence_eq_none_of_second (shape : parts.reverse = last :: other :: more)
    (answered : answers ⟨last, stop⟩ = some ⟨middle, tree⟩) (less : middle < stop)
    (failed : answers ⟨other, middle⟩ = none) :
    chooseAlternative answers tokens stop (.sequence parts action) = none := by
  rw [chooseAlternative, shape, chooseParts_cons answered less, chooseParts_eq_none failed]
  rfl

theorem length_le_of_chooseParts {all : List (Tree α)}
    (chosen : chooseParts answers parts stop trees = some (start, all)) :
    start + parts.length ≤ stop := by
  induction parts generalizing stop trees with
  | nil =>
    cases chosen
    exact le_rfl
  | cons part earlier inductionHypothesis =>
    obtain ⟨found, _, less, later⟩ := exists_of_chooseParts_cons chosen
    have shorter := inductionHypothesis later
    rw [List.length_cons]
    omega

theorem exists_of_sequence
    (chosen : chooseAlternative answers tokens stop (.sequence parts action) = some found) :
    ∃ trees, chooseParts answers parts.reverse stop [] = some (found.start, trees) := by
  obtain ⟨⟨start, trees⟩, outcome, rfl⟩ := Option.map_eq_some_iff.1 chosen
  exact ⟨trees, outcome⟩

theorem length_le_of_sequence
    (chosen : chooseAlternative answers tokens stop (.sequence parts action) = some found) :
    found.start + parts.length ≤ stop := by
  obtain ⟨trees, outcome⟩ := exists_of_sequence chosen
  rw [← List.length_reverse]
  exact length_le_of_chooseParts outcome

/-- A sequence that covers with its last part alone takes more with the parts before it. -/
theorem start_lt_of_covers (final : parts.getLast? = some last) (more : 1 < parts.length)
    (covers : Covers (answers ⟨last, stop⟩) start tree)
    (chosen : chooseAlternative answers tokens stop (.sequence parts action) = some found) :
    found.start < start := by
  obtain ⟨earlier, rfl⟩ := List.getLast?_eq_some_iff.1 final
  obtain ⟨trees, outcome⟩ := exists_of_sequence chosen
  rw [List.reverse_append, List.reverse_singleton, List.singleton_append] at outcome
  obtain ⟨found', answered, _, rest⟩ := exists_of_chooseParts_cons outcome
  obtain ⟨found'', answered', le⟩ := covers.exists_start_le
  cases answered.symm.trans answered'
  have shorter := length_le_of_chooseParts rest
  rw [List.length_append, List.length_singleton] at more
  rw [List.length_reverse] at shorter
  omega

theorem start_lt_of_two {another : RuleId} {first : Tree α}
    (shape : parts.reverse = last :: other :: another :: more)
    (lastAnswered : answers ⟨last, stop⟩ = some ⟨middle, tree⟩) (lastLess : middle < stop)
    (answered : answers ⟨other, middle⟩ = some ⟨start, first⟩) (less : start < middle)
    (chosen : chooseAlternative answers tokens stop (.sequence parts action) = some found) :
    found.start < start := by
  obtain ⟨trees, outcome⟩ := exists_of_sequence chosen
  rw [shape, chooseParts_cons lastAnswered lastLess, chooseParts_cons answered less] at outcome
  have shorter := length_le_of_chooseParts outcome
  rw [List.length_cons] at shorter
  omega

/-- A sequence takes what its parts are answered, from the last one to the first. -/
theorem covers_sequence (rest : chooseParts answers later.reverse stop [] = some (middle, trees))
    (covers : Covers (answers ⟨part, middle⟩) start tree) (less : start < middle) :
    Covers (chooseAlternative answers tokens stop (.sequence (part :: later) action)) start
      (.branch action (tree :: trees)) := by
  obtain ⟨found, answered, enough⟩ := covers
  have found_lt : found.start < middle := by
    rcases enough with further | rfl
    · exact further.trans less
    · exact less
  have chosen : chooseAlternative answers tokens stop (.sequence (part :: later) action) =
      some ⟨found.start, .branch action (found.tree :: trees)⟩ := by
    rw [chooseAlternative, List.reverse_cons, chooseParts_append, rest, Option.bind_some]
    change sequenceMatch action (chooseParts answers [part] middle trees) = _
    rw [chooseParts_cons answered found_lt]
    rfl
  refine ⟨_, chosen, ?_⟩
  rcases enough with further | rfl
  · exact .inl further
  · exact .inr rfl

/-- A single part covers if it ends the longer sequences before it too. -/
theorem covers_alone {alternatives : List (Alternative α)}
    (final : alternatives.getLast? = some (.sequence [last] action))
    (longer : ∀ alternative ∈ alternatives.dropLast, ∃ parts action,
      alternative = .sequence parts action ∧ parts.getLast? = some last ∧ 1 < parts.length)
    (covers : Covers (answers ⟨last, stop⟩) start tree) (less : start < stop) :
    Covers (chooseFirst answers tokens stop alternatives) start (.branch action [tree]) := by
  obtain ⟨earlier, rfl⟩ := List.getLast?_eq_some_iff.1 final
  rw [List.dropLast_concat] at longer
  clear final
  -- On the alternatives before the last one: each fails or takes more.
  induction earlier with
  | nil => exact covers_first (covers_sequence rfl covers less)
  | cons alternative earlier inductionHypothesis =>
    obtain ⟨⟨parts, action, rfl, final, more⟩, rest⟩ := List.forall_mem_cons.1 longer
    exact covers_later (fun _ => start_lt_of_covers final more covers) (inductionHypothesis rest)

/-- A sequence of three covers if its later parts are matched as they are derived. -/
theorem covers_three {first third : Tree α} {place : Nat}
    (thirdAnswered : answers ⟨last, stop⟩ = some ⟨middle, third⟩) (thirdLess : middle < stop)
    (answered : answers ⟨other, middle⟩ = some ⟨place, tree⟩) (less : place < middle)
    (covers : Covers (answers ⟨part, place⟩) start first) (firstLess : start < place) :
    Covers (chooseAlternative answers tokens stop (.sequence [part, other, last] action)) start
      (.branch action [first, tree, third]) := by
  refine covers_sequence ?_ covers firstLess
  change chooseParts answers [last, other] stop [] = _
  rw [chooseParts_cons thirdAnswered thirdLess, chooseParts_cons answered less]
  rfl

end Matcher

namespace Grammar

variable {grammar : Grammar α} {tokens : List Token} {answers : Attempt → Option (Match α)}

theorem Plain.eq_chooseFirst {id : RuleId} {rule : Rule α} (plain : grammar.Plain tokens answers)
    (known : grammar.rule? id = some rule) (stop : Nat) :
    answers ⟨id, stop⟩ = chooseFirst answers tokens stop rule.alternatives := by
  rw [plain, choose, known]

theorem Plain.justified (acyclic : grammar.Acyclic) (plain : grammar.Plain tokens answers)
    {key : Attempt} {found : Match α} (within : key.stop ≤ tokens.length)
    (answered : answers key = some found) :
    grammar.Justified tokens key.rule found.start key.stop found.tree := by
  obtain ⟨answer, chart, run, answer_ok, -⟩ :=
    (Invariant.justifying grammar tokens true).exists_run within within
  have same := answer?_eq_plain acyclic plain true within
  rw [answer?, run, answered] at same
  exact answer_ok found (Option.some.inj same)

end Grammar

end DiceCalculator
