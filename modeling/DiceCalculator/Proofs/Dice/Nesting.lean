import DiceCalculator.Token
import Mathlib.Algebra.Order.Group.Int
import Mathlib.Data.List.Basic
import Mathlib.Tactic.Common

/-!
# Nesting

Words are read from the end, as matching does. A word is balanced if each of its
parentheses has a partner in it. A linked word cannot be cut before a balanced
rest but at a token that is glue; so a longer word of the kind never ends with
an unrelated shorter one.
-/

namespace DiceCalculator.Dice

variable {token : Token} {u v word : List Token} {glue : Token → Prop}

/-- How many more parentheses the word closes than it opens. -/
def excess : List Token → Int
  | [] => 0
  | token :: word =>
    (if token.text = ")" then 1 else if token.text = "(" then -1 else 0) + excess word

@[simp] theorem excess_nil : excess [] = 0 := rfl

@[simp] theorem excess_cons (token : Token) (word : List Token) :
    excess (token :: word) =
      (if token.text = ")" then 1 else if token.text = "(" then -1 else 0) + excess word :=
  rfl

@[simp] theorem excess_append (u v : List Token) : excess (u ++ v) = excess u + excess v := by
  induction u with
  | nil => simp
  | cons token u inductionHypothesis =>
    rw [List.cons_append, excess_cons, excess_cons, inductionHypothesis, add_assoc]

/-- Each parenthesis has its partner. Read from the end, a word never opens more than it closes. -/
structure Balanced (word : List Token) : Prop where
  settled : excess word = 0
  nonneg {later : List Token} : later <:+ word → 0 ≤ excess later

theorem balanced_single {text : String} (written : token.text = text) (left : text ≠ "(")
    (right : text ≠ ")") : Balanced [token] where
  settled := by simp [written, left, right]
  nonneg := by
    intro later suffix
    rcases List.suffix_cons_iff.1 suffix with rfl | suffix
    · simp [written, left, right]
    · simp [List.suffix_nil.1 suffix]

theorem suffix_append_cases {later : List Token} (suffix : later <:+ u ++ v) :
    later <:+ v ∨ ∃ rest, rest <:+ u ∧ later = rest ++ v := by
  rcases List.suffix_or_suffix_of_suffix suffix (List.suffix_append u v) with inside | ⟨rest, rfl⟩
  · exact .inl inside
  · exact .inr ⟨rest, List.suffix_append_self_iff.1 suffix, rfl⟩

theorem Balanced.append (first : Balanced u) (second : Balanced v) : Balanced (u ++ v) where
  settled := by rw [excess_append, first.settled, second.settled, add_zero]
  nonneg := by
    intro later suffix
    rcases suffix_append_cases suffix with inside | ⟨rest, inside, rfl⟩
    · exact second.nonneg inside
    · rw [excess_append, second.settled, add_zero]
      exact first.nonneg inside

/-- Behind a left parenthesis every rest that includes the right one closes more than it opens. -/
theorem Balanced.pos_of_suffix {right : Token} {later : List Token} (inner : Balanced word)
    (close : right.text = ")") (suffix : later <:+ word ++ [right]) (something : later ≠ []) :
    0 < excess later := by
  have one : excess [right] = 1 := by simp [close]
  rcases suffix_append_cases suffix with inside | ⟨rest, inside, rfl⟩
  · rcases List.suffix_cons_iff.1 inside with rfl | inside
    · rw [one]
      exact Int.one_pos
    · exact absurd (List.suffix_nil.1 inside) something
  · have nonneg := inner.nonneg inside
    rw [excess_append, one]
    omega

theorem Balanced.enclose {left right : Token} (inner : Balanced word) (opens : left.text = "(")
    (close : right.text = ")") : Balanced (left :: (word ++ [right])) := by
  have settled : excess (left :: (word ++ [right])) = 0 := by
    simp [opens, close, inner.settled]
  refine ⟨settled, ?_⟩
  intro later suffix
  rcases List.suffix_cons_iff.1 suffix with rfl | suffix
  · exact settled.ge
  · by_cases nothing : later = []
    · simp [nothing]
    · exact (inner.pos_of_suffix close suffix nothing).le

/-- Where the word is cut before a balanced rest, the one or the other token at the cut is glue. -/
def Linked (glue : Token → Prop) (word : List Token) : Prop :=
  ∀ earlier before after later, word = earlier ++ before :: after :: later →
    excess (after :: later) = 0 → glue before ∨ glue after

theorem linked_single : Linked glue [token] := by
  intro earlier before after later same
  have length := congrArg List.length same
  simp at length
  omega

theorem Linked.mono {others : Token → Prop} (linked : Linked glue word)
    (implies : ∀ token, glue token → others token) : Linked others word := by
  intro earlier before after later same settled
  exact (linked earlier before after later same settled).imp (implies _) (implies _)

/-- The words may be put together if the cut between them has glue too. -/
theorem Linked.append (first : Linked glue u) (second : Linked glue v) (settled : excess v = 0)
    (joint : ∀ before ∈ u.getLast?, ∀ after ∈ v.head?, glue before ∨ glue after) :
    Linked glue (u ++ v) := by
  intro earlier before after later same rest
  -- The cut lies in the second word, between the two, or in the first one.
  rcases List.append_eq_append_iff.1 same with ⟨between, -, inside⟩ | ⟨between, front, inside⟩
  · exact second between before after later inside rest
  · match between, inside with
    | [], inside => exact second [] before after later inside.symm rest
    | [_], inside =>
      cases inside
      exact joint before (by simp [front]) after (by simp)
    | _ :: _ :: between, inside =>
      cases inside
      have whole : excess (after :: between) + excess v = 0 := by
        rw [← excess_append]
        exact rest
      rw [settled, add_zero] at whole
      exact first earlier before after between front whole

theorem Linked.join (first : Linked glue u) (mark : glue token) (balanced : Balanced [token])
    (second : Linked glue v) (settled : excess v = 0) : Linked glue (u ++ ([token] ++ v)) := by
  have behind : Linked glue ([token] ++ v) := by
    apply linked_single.append second settled
    intro before last _ _
    cases last
    exact .inl mark
  apply first.append behind
  · rw [excess_append, balanced.settled, settled, add_zero]
  · intro _ _ after head
    cases head
    exact .inr mark

/-- No cut within parentheses has a balanced rest. -/
theorem Balanced.linked_enclose {left right : Token} (inner : Balanced word)
    (close : right.text = ")") : Linked glue (left :: (word ++ [right])) := by
  intro earlier before after later same settled
  have suffix : after :: later <:+ word ++ [right] := by
    cases earlier with
    | nil => exact (List.cons.inj same).2 ▸ List.suffix_rfl
    | cons _ earlier => exact ⟨earlier ++ [before], by simp [(List.cons.inj same).2]⟩
  have positive := inner.pos_of_suffix close suffix (List.cons_ne_nil _ _)
  exact absurd settled positive.ne'

end DiceCalculator.Dice
