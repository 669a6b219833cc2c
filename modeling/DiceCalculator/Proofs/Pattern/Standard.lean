import DiceCalculator.Pattern.Standard
import DiceCalculator.Proofs.Pattern.Enclosed

/-!
# Parentheses in the standard dialect

The symbols of the standard dialect are read with scans that are put together
from steady ones, so the dialect has all that is needed to know what a pattern
means in a group. Only comments, which verbose mode brings, may take the
parenthesis behind a text that is complete without it.
-/

namespace DiceCalculator.Pattern

open Scan

variable (settings : Settings)

section Characters

theorem steady_setGlyphs (within : Within) : Steady (setGlyphs settings within) fun _ => True := by
  refine steady_of_steps (setGlyphs settings) (fun within => by cases within <;> rfl) ?_ within
  intro within c
  cases within with
  | comment => exact .goesOn _ id fun _ => Option.map_id'.symm
  | escape =>
    cases glyph : unescape? settings.unicode c with
    | none => exact .refuses fun _ => by rw [setGlyphs, glyph]; rfl
    | some found => exact .goesOn .set (found :: ·) fun _ => by rw [setGlyphs, glyph]; rfl
  | set =>
    by_cases closing : c = ']'
    · exact .ends [] fun _ => if_pos closing
    by_cases backslash : c = '\\'
    · exact .goesOn .escape id fun _ => by simp [setGlyphs, backslash]
    by_cases sign : (settings.verbose && c = '#') = true
    · exact .goesOn .comment id fun _ => by simp [setGlyphs, closing, backslash, sign]
    by_cases blank : (settings.verbose && Text.isBlankChar c) = true
    · exact .goesOn .set id fun _ => by simp [setGlyphs, closing, backslash, sign, blank]
    · exact .goesOn .set (.plain c :: ·) fun _ => by
        rw [setGlyphs, if_neg closing, if_neg backslash, if_neg sign, if_neg blank]

theorem steady_braced (verbose comment : Bool) :
    Steady (braced verbose comment) fun _ => True := by
  refine steady_of_steps (braced verbose) (fun _ => rfl) (fun comment c => ?_) comment
  cases comment with
  | true => exact .goesOn _ id fun _ => Option.map_id'.symm
  | false =>
    by_cases closing : c = '\x7d'
    · exact .ends [] fun _ => if_pos closing
    by_cases sign : (verbose && c = '#') = true
    · exact .goesOn true id fun _ => by simp [braced, closing, sign]
    by_cases blank : (verbose && Text.isBlankChar c) = true
    · exact .goesOn false id fun _ => by simp [braced, closing, sign, blank]
    · exact .goesOn false (c :: ·) fun _ => by
        rw [braced, if_neg Bool.false_ne_true, if_neg closing, if_neg sign, if_neg blank]

end Characters

section Symbols

/-- A symbol that is in order and closes no group. -/
structure Symbol.Inner (symbol : Symbol) : Prop where
  ne_closing : symbol ≠ .closing
  ordered : symbol.Ordered

theorem least_le_of_bounds? {written : List Char} {bounds : Nat × Option Nat}
    (read : bounds? written = some bounds) : ∀ most ∈ bounds.2, bounds.1 ≤ most := by
  unfold bounds? at read
  split at read
  · obtain ⟨n, -, rfl⟩ := Option.map_eq_some_iff.1 read
    rintro _ ⟨⟩
    exact Nat.le_refl _
  · obtain ⟨least, -, read⟩ := Option.bind_eq_some_iff.1 read
    split at read
    · cases read
      nofun
    · obtain ⟨most, -, read⟩ := Option.bind_eq_some_iff.1 read
      obtain ⟨ordered, read⟩ := Option.ite_none_right_eq_some.1 read
      cases read
      rintro _ ⟨⟩
      exact ordered

theorem ordered_pattern (glyph : Glyph) : glyph.pattern.Ordered := by
  cases glyph <;> trivial

theorem ordered_dot : settings.dot.Ordered := by
  unfold Settings.dot
  split_ifs <;> trivial

theorem steady_greediness : Steady (greediness settings) fun _ => True :=
  (steady_accept (by decide)).bind fun _ _ => steady_pure trivial

theorem steady_repetition {least : Nat} {most : Option Nat}
    (ordered : ∀ bound ∈ most, least ≤ bound) :
    Steady (repetition settings least most) Symbol.Inner :=
  (steady_greediness settings).bind fun _ _ => steady_pure ⟨nofun, ordered⟩

theorem steady_boundsOf (written : List Char) :
    Steady (boundsOf settings written) fun bounds => ∀ most ∈ bounds.2, bounds.1 ≤ most :=
  (steady_liftM fun _ read => least_le_of_bounds? read).bind fun _ ordered =>
    (steady_blanks _).bind fun _ _ => steady_pure ordered

theorem steady_bracketed : Steady (bracketed settings) Symbol.Inner := by
  refine (steady_blanks _).bind fun _ _ => (steady_accept (by decide)).bind fun negated _ => ?_
  refine (steady_blanks _).bind fun _ _ => (steady_accept (by decide)).bind fun bracket _ => ?_
  exact (steady_setGlyphs settings .set).bind fun _ _ => (steady_lookup _).bind fun _ _ =>
    steady_pure ⟨nofun, trivial⟩

theorem steady_escape : Steady (escape settings) Symbol.Inner := by
  refine steady_next.bind fun c _ => (steady_lookup _).bind fun glyph _ => ?_
  have plain : Steady (pure (.item glyph.pattern)) Symbol.Inner :=
    steady_pure ⟨nofun, ordered_pattern glyph⟩
  refine plain.ite ((steady_accept (by decide)).bind fun brace _ => plain.ite ?_)
  refine (steady_braced _ _).bind fun written _ => ?_
  split
  · exact steady_pure ⟨nofun, trivial⟩
  · exact (steady_boundsOf settings written).bind fun _ ordered =>
      (steady_greediness settings).bind fun _ _ =>
        steady_pure ⟨nofun, ordered, ordered_pattern glyph⟩

theorem steady_namedGroup : Steady (namedGroup settings) fun found => found.1.Inner :=
  (steady_through _).bind fun _ _ => (steady_lookup _).bind fun _ _ =>
    steady_pure ⟨nofun, trivial⟩

theorem steady_flagged : Steady (flagged settings) fun found => found.1.Inner := by
  refine (steady_through _).bind fun ⟨written, mark⟩ _ => ?_
  have flags (symbol : Symbol) (inner : symbol.Inner) :
      Steady (do return (symbol, ← (settings.flags? true written : Option _)))
        fun found => found.1.Inner :=
    (steady_lookup _).bind fun _ _ => steady_pure inner
  exact (flags (.opening false) ⟨nofun, trivial⟩).ite
    (steady_failure.ite (flags (.item .empty) ⟨nofun, trivial⟩))

theorem steady_opening : Steady (opening settings) fun found => found.1.Inner := by
  refine (steady_blanks _).bind fun _ _ => (steady_accept (by decide)).bind fun question _ => ?_
  refine (steady_pure ⟨nofun, trivial⟩).ite ((steady_accept (by decide)).bind fun angle _ => ?_)
  refine (steady_namedGroup settings).ite ((steady_accept (by decide)).bind fun letter _ => ?_)
  refine Steady.ite ((steady_accept (by decide)).bind fun angle _ => ?_) (steady_flagged settings)
  exact (steady_namedGroup settings).ite steady_failure

theorem steady_symbol_of_ne {c : Char} (other : c ≠ ')') :
    Steady (symbol settings c) fun found => found.1.Inner := by
  have alone {scan : Scan Symbol} (steady : Steady scan Symbol.Inner) :
      Steady (do return (← scan, settings)) fun found => found.1.Inner :=
    steady.bind fun _ inner => steady_pure inner
  unfold symbol
  split
  · exact steady_opening settings
  · exact absurd rfl other
  · exact steady_pure ⟨nofun, trivial⟩
  · exact alone (steady_repetition settings nofun)
  · exact alone (steady_repetition settings nofun)
  · exact alone (steady_repetition settings fun _ _ => Nat.zero_le _)
  · exact (steady_braced _ _).bind fun _ _ => (steady_boundsOf settings _).bind fun _ ordered =>
      alone (steady_repetition settings ordered)
  · exact alone (steady_bracketed settings)
  · exact alone (steady_escape settings)
  · exact (steady_pure ⟨nofun, ordered_dot settings⟩).ite steady_failure
  · exact steady_pure ⟨nofun, trivial⟩
  · exact steady_pure ⟨nofun, trivial⟩
  · exact Steady.ite ((steady_skip _).bind fun _ _ => steady_pure ⟨nofun, trivial⟩)
      (steady_pure ⟨nofun, trivial⟩)

/-- A closing parenthesis is the only character that closes, and it does nothing else. -/
theorem steady_symbol (c : Char) :
    Steady (symbol settings c) fun found => found.1.Ordered ∧ (found.1 = .closing → c = ')') := by
  by_cases closing : c = ')'
  · subst closing
    exact steady_pure ⟨trivial, fun _ => rfl⟩
  · exact (steady_symbol_of_ne settings closing).mono fun _ inner =>
      ⟨inner.ordered, fun closes => absurd closes inner.ne_closing⟩

theorem steady_lexeme : Steady (lexeme settings) fun found => found.1.Ordered :=
  steady_next.bind fun c _ => (steady_symbol settings c).mono fun _ holds => holds.1

end Symbols

/-- The standard dialect has all that is asked of one. -/
theorem lawful_standard : standard.Lawful where
  shorter {mode _ _ text _} found := by
    cases text with
    | nil => cases found
    | cons c text =>
      have within := (steady_symbol mode c).suffix found
      exact ⟨within.trans (List.suffix_cons ..), Nat.lt_succ_of_le within.length_le⟩
  closing_iff {mode later text rest} := by
    constructor
    · intro found
      cases text with
      | nil => cases found
      | cons c text =>
        obtain rfl := ((steady_symbol mode c).holds found).2 rfl
        cases found
        exact ⟨rfl, rfl⟩
    · rintro ⟨rfl, rfl⟩
      rfl
  beginning _ := rfl
  opening _ := rfl
  ordered {mode _ _ _ _} found := (steady_lexeme mode).holds found
  steadyAt {mode text} _ := (steady_lexeme mode).steadyAt text

end DiceCalculator.Pattern
