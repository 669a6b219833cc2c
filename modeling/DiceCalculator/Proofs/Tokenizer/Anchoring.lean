import DiceCalculator.Proofs.Pattern.Relocation
import DiceCalculator.Proofs.Pattern.Standard
import DiceCalculator.Proofs.Tokenizer.FirstMatch

/-!
# Rules match at the start

A rule is searched for in all that is left of a text, and only the end of what
is found counts. So a rule has to be found at the start or not at all. A text
that is a pattern by itself gives such a rule: in its group it means what it
means alone, and the condition before the group holds at the start only. It is
refused, though, if it ends in a comment that takes the end of the group. A text
that closes the group early may be accepted although it is no pattern, and then
the condition does not bind what comes after the group.
-/

namespace DiceCalculator

namespace Pattern

variable {written : Pattern} {text : List Char} {stop : Nat}

theorem normal_enclosed :
    (enclosed written).normal = inTurn (.assert .start :: unite written.normalBranches) :=
  rfl

/-- What is found for a pattern in its group is what the pattern takes at the start. -/
theorem matchEnd?_normal_enclosed (written : Pattern) (text : List Char) :
    (enclosed written).normal.matchEnd? text = written.normal.taken? text := by
  rw [normal_enclosed, normal]
  cases unite written.normalBranches with
  | nil => cases text <;> rfl
  | cons item items => exact (matchEnd?_atStart _ text).trans (run_moved _ [1] _)

theorem Ordered.exists_spans_of_taken? (ordered : written.Ordered)
    (taken : written.normal.taken? text = some stop) :
    ∃ there, written.Spans ⟨0, none, text⟩ there ∧ there.passed = stop := by
  obtain ⟨there, seen, spans, finished⟩ := written.normal.sound _ _ _ _ _ taken
  exact ⟨there, ordered.spans_normal.1 spans, Option.some.inj finished⟩

end Pattern

namespace Tokenizer

open Pattern

variable {dialect : Dialect}

/-- A pattern is accepted exactly if it is complete and keeps to the limits in the group. -/
theorem addRule_eq_ok_iff_complete (lawful : dialect.Lawful) {pattern : String} {written : Pattern}
    (spells : dialect.spelled? pattern = some written) (tokenizer : Tokenizer) (kind : Token.Kind) :
    (tokenizer.addRule dialect.compile pattern kind).1 = .ok () ↔
      dialect.Complete pattern ∧ dialect.fits (enclosed written) = true := by
  simp only [addRule_eq_ok_iff, Dialect.compile_eq_ok_iff]
  constructor
  · rintro ⟨-, whole, spellsWhole, fits, -⟩
    have complete : dialect.Complete pattern := by
      refine ⟨Option.isSome_of_eq_some spells, ?_⟩
      by_contra swallows
      rw [spelled?_in_group_eq_none lawful (Option.isSome_iff_ne_none.2 swallows)] at spellsWhole
      cases spellsWhole
    rw [complete.spelled?_in_group lawful spells] at spellsWhole
    cases spellsWhole
    exact ⟨complete, fits⟩
  · rintro ⟨complete, fits⟩
    exact ⟨_, _, complete.spelled?_in_group lawful spells, fits, rfl⟩

/-- In every dialect, a text that is a pattern by itself is accepted exactly if it is complete, that
is, if it does not take the end of the group for its own, and keeps to the limits with the group
around it. An accepted text is no pattern by itself exactly if it closes the group early. The rule
of an accepted pattern takes of a text what the pattern by itself prefers among its matches that
begin with the text. -/
theorem addRule_anchored (lawful : dialect.Lawful) (tokenizer : Tokenizer) (pattern : String)
    (kind : Token.Kind) :
    (∀ written, dialect.spelled? pattern = some written →
      ((tokenizer.addRule dialect.compile pattern kind).1 = .ok () ↔
        dialect.Complete pattern ∧ dialect.fits (enclosed written) = true)) ∧
    ((tokenizer.addRule dialect.compile pattern kind).1 = .ok () →
      (dialect.spelled? pattern = none ↔ dialect.ClosesEarly pattern)) ∧
    ∀ written, dialect.spelled? pattern = some written →
      (tokenizer.addRule dialect.compile pattern kind).1 = .ok () →
      ∃ rule, (tokenizer.addRule dialect.compile pattern kind).2.rules = tokenizer.rules ++ [rule] ∧
        rule.kind = kind ∧
        ∀ rest, rule.pattern.matchEnd? rest = written.normal.taken? rest ∧
          ∀ len, 0 < len → rule.pattern.matchEnd? rest = some len →
            ∃ there, written.Spans ⟨0, none, rest⟩ there ∧ there.passed = len := by
  refine ⟨fun written spells => addRule_eq_ok_iff_complete lawful spells tokenizer kind,
    fun accepted => ⟨fun alone => ?_, fun closes => closes.spelled?_eq_none lawful⟩, ?_⟩
  · obtain ⟨compiled, accepted⟩ := addRule_eq_ok_iff.1 accepted
    obtain ⟨whole, spells, -⟩ := Dialect.compile_eq_ok_iff.1 accepted
    exact closesEarly_of_spelled?_in_group lawful (Option.isSome_of_eq_some spells) alone
  · intro written spells accepted
    obtain ⟨complete, fits⟩ :=
      (addRule_eq_ok_iff_complete lawful spells tokenizer kind).1 accepted
    have compiled := Dialect.compile_eq_ok_iff.2
      ⟨_, complete.spelled?_in_group lawful spells, fits, rfl⟩
    refine ⟨⟨_, kind⟩, by rw [addRule_of_ok compiled], rfl, fun rest => ?_⟩
    refine ⟨matchEnd?_normal_enclosed written rest, fun len _ taken => ?_⟩
    rw [matchEnd?_normal_enclosed] at taken
    exact (ordered_of_spelled? lawful spells).exists_spans_of_taken? taken

/-- Both branches of a pattern are bound to the start. -/
theorem addRule_anchored_branches :
    let written : Pattern := .alt (.char 'a') (.char 'b')
    let larger : Tokenizer :=
      ⟨[⟨.seq (.assert .start) (.one ⟨[('a', 'b')], false⟩), .charSequence⟩]⟩
    standard.Lawful ∧
    standard.spelled? "a|b" = some written ∧
    ({} : Tokenizer).addRule standard.compile "a|b" .charSequence = (.ok (), larger) ∧
    standard.Complete "a|b" ∧ ¬standard.ClosesEarly "a|b" ∧
    larger.tokenize "bxb" = .error ⟨"xb"⟩ ∧
    ∃ rule, larger.rules = [rule] ∧ rule.pattern.matchEnd? "bxb".toList = some 1 ∧
      ∃ there, written.Spans ⟨0, none, "bxb".toList⟩ there ∧ there.passed = 1 := by
  intro written larger
  have spells : standard.spelled? "a|b" = some written := by decide +kernel
  have added : ({} : Tokenizer).addRule standard.compile "a|b" .charSequence =
      (.ok (), larger) := by
    decide +kernel
  obtain ⟨accepted, alone, anchored⟩ := addRule_anchored lawful_standard {} "a|b" .charSequence
  rw [added] at accepted alone anchored
  have contained : ¬standard.ClosesEarly "a|b" := by
    rw [← alone rfl, spells]
    exact Option.some_ne_none _
  obtain ⟨rule, rules, -, anchored⟩ := anchored written spells rfl
  have taken : rule.pattern.matchEnd? "bxb".toList = some 1 := by
    obtain rfl : _ = rule := List.singleton_inj.1 rules
    decide +kernel
  exact ⟨lawful_standard, spells, added, ((accepted written spells).1 rfl).1, contained,
    by decide +kernel, rule, rules, taken, (anchored _).2 1 Nat.one_pos taken⟩

/-- After the group that `a)` closes early, `b` is taken wherever it is, with all that comes before
it. And a comment at the end of a pattern takes the end of the group, so the pattern is refused. -/
theorem addRule_unanchored :
    let larger : Tokenizer :=
      ⟨[⟨.alt (.seq (.assert .start) (.char 'a')) (.char 'b'), .charSequence⟩]⟩
    (standard.spelled? "a)|(?:b" = none ∧
      ({} : Tokenizer).addRule standard.compile "a)|(?:b" .charSequence = (.ok (), larger) ∧
      larger.tokenize "xb" = .ok [⟨.charSequence, "xb"⟩]) ∧
    (standard.spelled? "(?x)a#c").isSome = true ∧
      ({} : Tokenizer).addRule standard.compile "(?x)a#c" .charSequence =
        (.error .malformed, {}) := by
  decide +kernel

end Tokenizer

end DiceCalculator
