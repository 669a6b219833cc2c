import DiceCalculator.Pattern.Matching
import Mathlib.Tactic.Common

/-!
# The words of a pattern

Which texts a pattern matches as a whole, said without a search: a pattern spans
a stretch of text if some way through it takes that stretch and no more. The
order in which the ways are tried plays no part here.
-/

namespace DiceCalculator.Pattern

/-- Some way through the pattern leads from the one place to the other. -/
inductive Spans : Pattern → Cursor → Cursor → Prop where
  | empty {here : Cursor} : Spans .empty here here
  | assert {condition : Assertion} {here : Cursor} (holds : here.satisfies condition = true) :
    Spans (.assert condition) here here
  | char {c : Char} {rest : List Char} {here : Cursor} (left : here.left = c :: rest) :
    Spans (.char c) here (here.advance c rest)
  | any {c : Char} {rest : List Char} {here : Cursor} (left : here.left = c :: rest)
      (inLine : c ≠ '\n') : Spans .any here (here.advance c rest)
  | one {set : CharSet} {c : Char} {rest : List Char} {here : Cursor} (left : here.left = c :: rest)
      (inside : set.contains c = true) : Spans (.one set) here (here.advance c rest)
  | seq {first second : Pattern} {here middle there : Cursor} (before : Spans first here middle)
      (after : Spans second middle there) : Spans (.seq first second) here there
  | altFirst {first second : Pattern} {here there : Cursor} (taken : Spans first here there) :
    Spans (.alt first second) here there
  | altSecond {first second : Pattern} {here there : Cursor} (taken : Spans second here there) :
    Spans (.alt first second) here there
  | group {numbered : Bool} {body : Pattern} {here there : Cursor} (taken : Spans body here there) :
    Spans (.group numbered body) here there
  | enough {most : Option Nat} {greedy : Bool} {body : Pattern} {here : Cursor} :
    Spans (.many 0 most greedy body) here here
  | round {least : Nat} {most : Option Nat} {greedy : Bool} {body : Pattern}
      {here middle there : Cursor} (permitted : 0 < least ∨ most ≠ some 0)
      (first : Spans body here middle)
      (others : Spans (.many (least - 1) (most.map (· - 1)) greedy body) middle there) :
    Spans (.many least most greedy body) here there

theorem Spans.left_eq {pattern : Pattern} {here there : Cursor} (spans : Spans pattern here there) :
    ∃ taken, here.left = taken ++ there.left ∧ there.passed = here.passed + taken.length := by
  induction spans with
  | empty | assert | enough => exact ⟨[], rfl, rfl⟩
  | char left | any left | one left => exact ⟨[_], left, rfl⟩
  | seq _ _ first second | round _ _ _ first second =>
    obtain ⟨taken, left, passed⟩ := first
    obtain ⟨more, leftLater, passedLater⟩ := second
    refine ⟨taken ++ more, by rw [left, leftLater, List.append_assoc], ?_⟩
    rw [passedLater, passed, List.length_append, Nat.add_assoc]
  | altFirst _ inductionHypothesis | altSecond _ inductionHypothesis
  | group _ inductionHypothesis => exact inductionHypothesis

/-- The pattern spans the whole text. -/
def FullyMatches (pattern : Pattern) (text : String) : Prop :=
  ∃ there, pattern.Spans ⟨0, none, text.toList⟩ there ∧ there.left = []

/-- What the pattern can take from the front of a text are the words. -/
def HasWords (pattern : Pattern) (word : List Char → Prop) : Prop :=
  ∀ here rest, (∃ there, pattern.Spans here there ∧ there.left = rest) ↔
    ∃ taken, word taken ∧ here.left = taken ++ rest

theorem HasWords.congr {pattern : Pattern} {word other : List Char → Prop}
    (hasWords : pattern.HasWords word) (same : ∀ a, word a ↔ other a) : pattern.HasWords other := by
  intro here rest
  simp only [← same, hasWords here rest]

theorem hasWords_one (set : CharSet) :
    (one set).HasWords fun word => ∃ c, word = [c] ∧ set.contains c = true := by
  intro here rest
  constructor
  · rintro ⟨there, spans, rfl⟩
    cases spans with
    | one left inside => exact ⟨_, ⟨_, rfl, inside⟩, left⟩
  · rintro ⟨_, ⟨c, rfl, inside⟩, left⟩
    exact ⟨_, .one left inside, rfl⟩

theorem HasWords.seq {first second : Pattern} {word other : List Char → Prop}
    (hasWords : first.HasWords word) (hasOthers : second.HasWords other) :
    (seq first second).HasWords fun both => ∃ a b, word a ∧ other b ∧ both = a ++ b := by
  intro here rest
  constructor
  · rintro ⟨there, spans, ends⟩
    cases spans with
    | seq before after =>
      obtain ⟨a, isWord, left⟩ := (hasWords here _).1 ⟨_, before, rfl⟩
      obtain ⟨b, isOther, leftLater⟩ := (hasOthers _ rest).1 ⟨there, after, ends⟩
      exact ⟨a ++ b, ⟨a, b, isWord, isOther, rfl⟩, by rw [left, leftLater, List.append_assoc]⟩
  · rintro ⟨_, ⟨a, b, isWord, isOther, rfl⟩, left⟩
    rw [List.append_assoc] at left
    obtain ⟨middle, before, leftLater⟩ := (hasWords here _).2 ⟨a, isWord, left⟩
    obtain ⟨there, after, ends⟩ := (hasOthers middle rest).2 ⟨b, isOther, leftLater⟩
    exact ⟨there, .seq before after, ends⟩

/-- A repetition of a set has the rows of its characters as words, unless they are too short. -/
theorem hasWords_many_one (least : Nat) (greedy : Bool) (set : CharSet) :
    (many least none greedy (one set)).HasWords fun word =>
      least ≤ word.length ∧ ∀ c ∈ word, set.contains c = true := by
  intro here rest
  constructor
  · rintro ⟨there, spans, rfl⟩
    generalize shape : many least none greedy (one set) = pattern at spans
    induction spans generalizing least with
    | enough =>
      cases shape
      exact ⟨[], ⟨Nat.le_refl 0, nofun⟩, rfl⟩
    | @round least _ _ _ _ _ _ _ first _ _ inductionHypothesis =>
      cases shape
      obtain ⟨taken, ⟨long, each⟩, leftLater⟩ := inductionHypothesis (least - 1) rfl
      obtain ⟨_, ⟨c, rfl, inside⟩, left⟩ := (hasWords_one set _ _).1 ⟨_, first, rfl⟩
      refine ⟨c :: taken, ⟨?_, List.forall_mem_cons.2 ⟨inside, each⟩⟩, ?_⟩
      · rw [List.length_cons]
        omega
      · rw [left, leftLater]
        rfl
    | _ => cases shape
  · rintro ⟨taken, ⟨long, each⟩, left⟩
    induction taken generalizing least here with
    | nil =>
      obtain rfl := Nat.le_zero.1 long
      exact ⟨here, .enough, left⟩
    | cons c taken inductionHypothesis =>
      obtain ⟨inside, others⟩ := List.forall_mem_cons.1 each
      have shorter : least - 1 ≤ taken.length := Nat.sub_le_of_le_add long
      obtain ⟨there, spans, ends⟩ :=
        inductionHypothesis (least - 1) (here.advance c (taken ++ rest)) rfl shorter others
      exact ⟨there, .round (.inr nofun) (.one left inside) spans, ends⟩

end DiceCalculator.Pattern
