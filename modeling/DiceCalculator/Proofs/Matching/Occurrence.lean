import DiceCalculator.Proofs.Matching.Derivation

/-!
# Occurrences of words

A word occurs in a list between two places. What is put together of words
occurs where they stand side by side, and of two words that end at the same
place the longer one contains what stands in front of the shorter one.
-/

namespace DiceCalculator

variable {α β : Type}

/-- The word stands in the list from the place `start` up to the place `stop`. -/
structure Occurs (list word : List β) (start stop : Nat) : Prop where
  ordered : start ≤ stop
  within : stop ≤ list.length
  stretch_eq : stretch list start stop = word

namespace Occurs

variable {list u v word : List β} {element : β} {start middle stop : Nat}

theorem length_eq (occurs : Occurs list word start stop) : start + word.length = stop := by
  rw [← occurs.stretch_eq, length_stretch occurs.within, Nat.add_sub_cancel' occurs.ordered]

theorem start_lt (occurs : Occurs list word start stop) (something : word ≠ []) : start < stop := by
  have length := occurs.length_eq
  have positive := List.length_pos_of_ne_nil something
  omega

theorem single_lt (occurs : Occurs list [element] start stop) : start < stop :=
  occurs.start_lt (List.cons_ne_nil _ _)

theorem mem (occurs : Occurs list word start stop) (member : element ∈ word) : element ∈ list := by
  rw [← occurs.stretch_eq] at member
  exact List.mem_of_mem_take (List.mem_of_mem_drop member)

theorem split (occurs : Occurs list (u ++ v) start stop) :
    ∃ middle, Occurs list u start middle ∧ Occurs list v middle stop := by
  have length := occurs.length_eq
  rw [List.length_append] at length
  have first : start ≤ start + u.length := Nat.le_add_right _ _
  have second : start + u.length ≤ stop := by omega
  have whole := (stretch_append first second).trans occurs.stretch_eq
  have within := second.trans occurs.within
  obtain ⟨left, right⟩ := List.append_inj whole (by rw [length_stretch within]; omega)
  exact ⟨start + u.length, ⟨first, within, left⟩, ⟨second, occurs.within, right⟩⟩

theorem split_three {tokens : List Token} {action : α} {first second third : Tree α}
    (occurs : Occurs tokens (Tree.branch action [first, second, third]).tokens start stop) :
    ∃ place middle, Occurs tokens first.tokens start place ∧
      Occurs tokens second.tokens place middle ∧ Occurs tokens third.tokens middle stop := by
  rw [Tree.tokens_three] at occurs
  obtain ⟨place, firstOccurs, rest⟩ := occurs.split
  obtain ⟨middle, secondOccurs, thirdOccurs⟩ := rest.split
  exact ⟨place, middle, firstOccurs, secondOccurs, thirdOccurs⟩

theorem exists_place (occurs : Occurs list [element] start stop) :
    stop = start + 1 ∧ list[start]? = some element := by
  obtain rfl : start + 1 = stop := occurs.length_eq
  have found := List.getElem?_eq_getElem (Nat.lt_of_succ_le occurs.within)
  have same := (stretch_succ found).symm.trans occurs.stretch_eq
  rw [found, (List.cons.inj same).1]
  exact ⟨rfl, rfl⟩

theorem single_unique {other : β} {before : Nat} (one : Occurs list [element] start stop)
    (another : Occurs list [other] before stop) : element = other := by
  obtain ⟨rfl, present⟩ := one.exists_place
  obtain ⟨same, alsoPresent⟩ := another.exists_place
  cases same
  exact Option.some.inj (present.symm.trans alsoPresent)

theorem suffix (occurs : Occurs list word start list.length) : word = list.drop start := by
  rw [← occurs.stretch_eq, stretch, List.take_length]

theorem of_suffix (suffix : word <:+ list) :
    Occurs list word (list.length - word.length) list.length := by
  refine ⟨Nat.sub_le _ _, le_rfl, ?_⟩
  rw [stretch, List.take_length]
  exact (List.suffix_iff_eq_drop.1 suffix).symm

/-- A longer word that ends at the same place has the one before the shorter word in it. -/
theorem exists_eq_append {longer shorter : List β} {before : Nat}
    (long : Occurs list longer start stop) (single : Occurs list [element] before middle)
    (short : Occurs list shorter middle stop) (less : start < middle) :
    ∃ earlier, longer = earlier ++ element :: shorter := by
  have length : before + 1 = middle := single.length_eq
  refine ⟨stretch list start before, ?_⟩
  have first : start ≤ before := by omega
  calc longer = stretch list start stop := long.stretch_eq.symm
    _ = stretch list start before ++ (stretch list before middle ++ stretch list middle stop) := by
      rw [stretch_append single.ordered short.ordered,
        stretch_append first (single.ordered.trans short.ordered)]
    _ = stretch list start before ++ element :: shorter := by
      rw [single.stretch_eq, short.stretch_eq, List.singleton_append]

end Occurs

end DiceCalculator
