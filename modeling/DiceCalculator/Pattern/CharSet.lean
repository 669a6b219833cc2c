/-!
# Sets of characters

A character set is written as a list of ranges, in any order, and stands for the
characters in one of them or for those in none of them, so one set has many
spellings. `CharSet.normal` is the spelling with the fewest ranges, in order and
apart from each other. A set and its normal spelling have the same characters
(`contains_normal`).
-/

namespace DiceCalculator

/-- A set of characters: those in one of the ranges, or those in none of them. -/
structure CharSet where
  ranges : List (Char × Char)
  negated : Bool := false
  deriving DecidableEq, Repr

namespace CharSet

def contains (set : CharSet) (c : Char) : Bool :=
  (set.ranges.any fun range => range.1 ≤ c && c ≤ range.2) != set.negated

theorem contains_ranges (ranges : List (Char × Char)) (c : Char) :
    contains ⟨ranges, false⟩ c = true ↔ ∃ range ∈ ranges, range.1 ≤ c ∧ c ≤ range.2 := by
  simp [contains]

/-- Places in the order of all characters: from a first one up to, but not including, another. -/
structure Span where
  low : Nat
  past : Nat
  deriving DecidableEq

def Span.Among (spans : List Span) (n : Nat) : Prop :=
  ∃ span ∈ spans, span.low ≤ n ∧ n < span.past

/-- The spans with one more, joined with those that it meets. -/
def Span.insert (span : Span) : List Span → List Span
  | [] => [span]
  | next :: rest =>
    if span.past < next.low then span :: next :: rest
    else if next.past < span.low then next :: span.insert rest
    else Span.insert ⟨min span.low next.low, max span.past next.past⟩ rest

theorem Span.among_insert {span : Span} {spans : List Span} {n : Nat} :
    Among (span.insert spans) n ↔ (span.low ≤ n ∧ n < span.past) ∨ Among spans n := by
  induction spans generalizing span with
  | nil => simp [insert, Among]
  | cons next rest inductionHypothesis =>
    simp only [insert]
    split
    · simp [Among]
    · split
      · have rearranged : Among (next :: span.insert rest) n ↔
            (next.low ≤ n ∧ n < next.past) ∨ Among (span.insert rest) n := by simp [Among]
        rw [rearranged, inductionHypothesis]
        simp only [Among, List.mem_cons, exists_eq_or_imp]
        exact or_left_comm
      · rw [inductionHypothesis]
        simp only [Among, List.mem_cons, exists_eq_or_imp, ← or_assoc]
        refine or_congr ?_ Iff.rfl
        omega

/-- The spans without the places of another. -/
def Span.remove (span : Span) (spans : List Span) : List Span :=
  spans.flatMap fun other =>
    [⟨other.low, min other.past span.low⟩, ⟨max other.low span.past, other.past⟩]

theorem Span.among_remove {span : Span} {spans : List Span} {n : Nat} :
    Among (span.remove spans) n ↔ Among spans n ∧ ¬(span.low ≤ n ∧ n < span.past) := by
  simp only [Among, remove, List.mem_flatMap, List.mem_cons, List.not_mem_nil, or_false]
  constructor
  · rintro ⟨piece, ⟨other, found, rfl | rfl⟩, inside⟩
    · exact ⟨⟨other, found, by simp only at inside; omega⟩, by simp only at inside; omega⟩
    · exact ⟨⟨other, found, by simp only at inside; omega⟩, by simp only at inside; omega⟩
  · rintro ⟨⟨other, found, inside⟩, outside⟩
    by_cases before : n < span.low
    · exact ⟨_, ⟨other, found, .inl rfl⟩, by simp only; omega⟩
    · exact ⟨_, ⟨other, found, .inr rfl⟩, by simp only; omega⟩

def Span.ofRange (range : Char × Char) : Span :=
  ⟨range.1.ordinal, range.2.ordinal + 1⟩

theorem Span.mem_ofRange {range : Char × Char} {c : Char} :
    (ofRange range).low ≤ c.ordinal ∧ c.ordinal < (ofRange range).past ↔
      range.1 ≤ c ∧ c ≤ range.2 := by
  simp only [ofRange, Char.le_iff_ordinal_le, Fin.le_def]
  omega

/-- The characters at the places of the span, if there are any. -/
def Span.range? (span : Span) : Option (Char × Char) :=
  if h : span.low < min span.past Char.numCodePoints then
    some (Char.ofOrdinal ⟨span.low, by omega⟩,
      Char.ofOrdinal ⟨min span.past Char.numCodePoints - 1, by omega⟩)
  else none

theorem Span.exists_range? {span : Span} {c : Char} :
    (∃ range, span.range? = some range ∧ range.1 ≤ c ∧ c ≤ range.2) ↔
      span.low ≤ c.ordinal ∧ c.ordinal < span.past := by
  have := c.ordinal.isLt
  simp only [range?]
  split
  · simp only [Option.some.injEq, exists_eq_left', Char.le_iff_ordinal_le,
      Char.ordinal_ofOrdinal, Fin.le_def]
    omega
  · simp only [reduceCtorEq, false_and, exists_false, false_iff]
    omega

def spans (set : CharSet) : List Span :=
  let written := set.ranges.map Span.ofRange
  if set.negated then written.foldl (fun spans span => span.remove spans) [⟨0, Char.numCodePoints⟩]
  else written

/-- The set spelled with the fewest ranges, in order. -/
def normal (set : CharSet) : CharSet :=
  ⟨(set.spans.foldl (fun spans span => span.insert spans) []).filterMap Span.range?, false⟩

theorem Span.among_foldl_remove {written spans : List Span} {n : Nat} :
    Among (written.foldl (fun spans span => span.remove spans) spans) n ↔
      Among spans n ∧ ¬Among written n := by
  induction written generalizing spans with
  | nil => simp [Among]
  | cons span rest inductionHypothesis =>
    rw [List.foldl_cons, inductionHypothesis, among_remove, and_assoc, ← not_or]
    simp only [Among, List.mem_cons, exists_eq_or_imp]

theorem Span.among_foldl_insert {written spans : List Span} {n : Nat} :
    Among (written.foldl (fun spans span => span.insert spans) spans) n ↔
      Among spans n ∨ Among written n := by
  induction written generalizing spans with
  | nil => simp [Among]
  | cons span rest inductionHypothesis =>
    rw [List.foldl_cons, inductionHypothesis, among_insert]
    simp only [Among, List.mem_cons, exists_eq_or_imp]
    rw [or_assoc, or_left_comm]

theorem among_map_ofRange {ranges : List (Char × Char)} {c : Char} :
    Span.Among (ranges.map Span.ofRange) c.ordinal ↔
      ∃ range ∈ ranges, range.1 ≤ c ∧ c ≤ range.2 := by
  simp only [Span.Among, List.mem_map]
  constructor
  · rintro ⟨_, ⟨range, found, rfl⟩, inside⟩
    exact ⟨range, found, Span.mem_ofRange.1 inside⟩
  · rintro ⟨range, found, inside⟩
    exact ⟨_, ⟨range, found, rfl⟩, Span.mem_ofRange.2 inside⟩

theorem among_spans (set : CharSet) (c : Char) :
    Span.Among set.spans c.ordinal ↔ set.contains c = true := by
  rcases set with ⟨ranges, negated⟩
  cases negated with
  | false => simp [spans, among_map_ofRange, contains]
  | true =>
    have full : Span.Among [⟨0, Char.numCodePoints⟩] c.ordinal := by
      simp [Span.Among]
    simp [spans, Span.among_foldl_remove, among_map_ofRange, contains, full]

theorem among_normal {set : CharSet} {n : Nat} :
    Span.Among (set.spans.foldl (fun spans span => span.insert spans) []) n ↔
      Span.Among set.spans n := by
  rw [Span.among_foldl_insert]
  simp [Span.Among]

theorem contains_normal (set : CharSet) (c : Char) : set.normal.contains c = set.contains c := by
  rw [Bool.eq_iff_iff, ← among_spans set, ← among_normal, normal, contains_ranges]
  simp only [List.mem_filterMap, Span.Among, ← Span.exists_range?]
  constructor
  · rintro ⟨range, ⟨span, found, spelled⟩, inside⟩
    exact ⟨span, found, range, spelled, inside⟩
  · rintro ⟨span, found, range, spelled, inside⟩
    exact ⟨range, ⟨span, found, spelled⟩, inside⟩

end CharSet

end DiceCalculator
