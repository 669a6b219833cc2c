import DiceCalculator.Pattern.Scan
import Mathlib.Data.List.Infix

/-!
# What a scan looks at

Behind a text a closing parenthesis is written, and more behind that. A scan of
the text is settled if it comes to its end before the parenthesis: then it takes
the same, whatever stands behind. Otherwise it is pending, and the parenthesis
is the last thing that it needs or part of what it takes anyway. A scan is
steady if it is one or the other for each text, and steady scans can be put
together; on the way, what they return is known to have some property.
-/

namespace DiceCalculator.Scan

variable {α β : Type}

/-- The scan of the text is not affected by a closing parenthesis behind it. -/
def Settled (scan : Scan α) (text : List Char) : Prop :=
  ∃ a rest, scan text = some (a, rest) ∧
    ∀ behind, scan (text ++ ')' :: behind) = some (a, rest ++ ')' :: behind)

/-- The scan takes a closing parenthesis behind the text together with all of the text. If it does
not need the parenthesis, it comes to the same without. -/
structure Pending (scan : Scan α) (text : List Char) : Prop where
  alone : ∀ found, scan text = some found → found.2 = [] ∧ scan (text ++ [')']) = some found
  covers : ∀ behind found, scan (text ++ ')' :: behind) = some found → found.2 <:+ behind

def SteadyAt (scan : Scan α) (text : List Char) : Prop :=
  Settled scan text ∨ Pending scan text

/-- Whatever the text is, what is returned has the property, what is left is the end of the text,
and a closing parenthesis behind the text is looked at only if all of the text was. -/
structure Steady (scan : Scan α) (p : α → Prop) : Prop where
  holds {text rest : List Char} {a : α} : scan text = some (a, rest) → p a
  suffix {text rest : List Char} {a : α} : scan text = some (a, rest) → rest <:+ text
  steadyAt (text : List Char) : SteadyAt scan text

variable {scan inner : Scan α} {f : α → Scan β} {p : α → Prop} {q : β → Prop} {text : List Char}
  {c : Char}

theorem bind_eq (scan : Scan α) (f : α → Scan β) (text : List Char) :
    (scan >>= f) text = (scan text).bind fun found => f found.1 found.2 :=
  rfl

theorem Steady.mono {p' : α → Prop} (steady : Steady scan p) (weaker : ∀ a, p a → p' a) :
    Steady scan p' :=
  ⟨fun taken => weaker _ (steady.holds taken), steady.suffix, steady.steadyAt⟩

theorem steady_pure {a : α} (holds : p a) : Steady (pure a) p where
  holds taken := by
    cases taken
    exact holds
  suffix taken := by
    cases taken
    exact List.suffix_refl _
  steadyAt text := .inl ⟨a, text, rfl, fun _ => rfl⟩

theorem Pending.of_none (refused : scan text = none)
    (covers : ∀ behind found, scan (text ++ ')' :: behind) = some found → found.2 <:+ behind) :
    Pending scan text where
  alone _ taken := nomatch refused.symm.trans taken
  covers := covers

theorem steady_failure : Steady failure p where
  holds taken := nomatch taken
  suffix taken := nomatch taken
  steadyAt _ := .inr (.of_none rfl fun _ _ taken => nomatch taken)

theorem steady_liftM {found : Option α} (holds : ∀ a ∈ found, p a) :
    Steady (liftM found : Scan α) p := by
  cases found with
  | none => exact steady_failure
  | some a => exact steady_pure (holds a rfl)

theorem steady_lookup (found : Option α) : Steady (liftM found : Scan α) fun _ => True :=
  steady_liftM fun _ _ => trivial

section Bind

variable (each : ∀ {text a rest}, scan text = some (a, rest) → Steady (f a) q)

include each

theorem Settled.bind (settled : Settled scan text) : SteadyAt (scan >>= f) text := by
  obtain ⟨a, rest, alone, followed⟩ := settled
  have first : (scan >>= f) text = f a rest := by rw [bind_eq, alone, Option.bind_some]
  have whole (behind : List Char) :
      (scan >>= f) (text ++ ')' :: behind) = f a (rest ++ ')' :: behind) := by
    rw [bind_eq, followed, Option.bind_some]
  obtain ⟨b, last, taken, takenToo⟩ | pending := (each alone).steadyAt rest
  · exact .inl ⟨b, last, first.trans taken, fun behind => (whole behind).trans (takenToo behind)⟩
  · refine .inr ⟨fun found taken => ?_, fun behind found taken => ?_⟩
    · rw [whole]
      exact pending.alone found (first.symm.trans taken)
    · exact pending.covers behind found ((whole behind).symm.trans taken)

theorem Pending.bind (pending : Pending scan text) : Pending (scan >>= f) text where
  alone found taken := by
    obtain ⟨⟨a, rest⟩, first, second⟩ := Option.bind_eq_some_iff.1 taken
    obtain ⟨rfl, firstToo⟩ := pending.alone _ first
    refine ⟨List.suffix_nil.1 ((each first).suffix second), ?_⟩
    rw [bind_eq, firstToo, Option.bind_some]
    exact second
  covers behind found taken := by
    obtain ⟨⟨a, rest⟩, first, second⟩ := Option.bind_eq_some_iff.1 taken
    exact ((each first).suffix second).trans (pending.covers behind _ first)

end Bind

theorem Steady.bind (steady : Steady scan p) (each : ∀ a, p a → Steady (f a) q) :
    Steady (scan >>= f) q where
  holds taken := by
    obtain ⟨⟨a, rest⟩, first, second⟩ := Option.bind_eq_some_iff.1 taken
    exact (each a (steady.holds first)).holds second
  suffix taken := by
    obtain ⟨⟨a, rest⟩, first, second⟩ := Option.bind_eq_some_iff.1 taken
    exact ((each a (steady.holds first)).suffix second).trans (steady.suffix first)
  steadyAt text := by
    obtain settled | pending := steady.steadyAt text
    · exact settled.bind fun first => each _ (steady.holds first)
    · exact .inr (pending.bind fun first => each _ (steady.holds first))

theorem Steady.ite {d : Prop} [Decidable d] {other : Scan α} (steady : Steady scan p)
    (steadyOther : Steady other p) : Steady (if d then scan else other) p := by
  split
  · exact steady
  · exact steadyOther

/-- A scan that goes on with another one behind the first character is as steady as that. -/
theorem SteadyAt.cons {g : α → β} {outer : Scan β}
    (step : ∀ text, outer (c :: text) = (inner text).map fun found => (g found.1, found.2))
    (steady : SteadyAt inner text) : SteadyAt outer (c :: text) := by
  obtain ⟨a, rest, alone, followed⟩ | ⟨alone, covers⟩ := steady
  · refine .inl ⟨g a, rest, ?_, fun behind => ?_⟩
    · rw [step, alone, Option.map_some]
    · rw [List.cons_append, step, followed, Option.map_some]
  · refine .inr ⟨fun found taken => ?_, fun behind found taken => ?_⟩
    · rw [step] at taken
      obtain ⟨within, takenWithin, rfl⟩ := Option.map_eq_some_iff.1 taken
      obtain ⟨nothing, takenToo⟩ := alone within takenWithin
      rw [List.cons_append, step, takenToo]
      exact ⟨nothing, rfl⟩
    · rw [List.cons_append, step] at taken
      obtain ⟨within, takenWithin, rfl⟩ := Option.map_eq_some_iff.1 taken
      exact covers behind within takenWithin

theorem steady_accept (other : c ≠ ')') : Steady (accept c) fun _ => True where
  holds _ := trivial
  suffix {text _ _} taken := by
    cases text with
    | nil =>
      cases taken
      exact List.suffix_refl _
    | cons d text =>
      rw [accept] at taken
      split at taken <;> cases taken
      · exact List.suffix_cons ..
      · exact List.suffix_refl _
  steadyAt text := by
    refine .inl ?_
    cases text with
    | nil => exact ⟨false, [], rfl, fun _ => if_neg other.symm⟩
    | cons d text =>
      by_cases same : d = c
      · exact ⟨true, text, if_pos same, fun _ => if_pos same⟩
      · exact ⟨false, d :: text, if_neg same, fun _ => if_neg same⟩

section Recursion

/-- What a family of scans does with a first character: it goes on with one of the family, ends
behind the character, or refuses the text. -/
inductive Step {ι : Type} (scans : ι → Scan α) (i : ι) (c : Char) : Prop where
  | goesOn (j : ι) (g : α → α) :
    (∀ text, scans i (c :: text) = (scans j text).map fun found => (g found.1, found.2)) →
    Step scans i c
  | ends (a : α) : (∀ text, scans i (c :: text) = some (a, text)) → Step scans i c
  | refuses : (∀ text, scans i (c :: text) = none) → Step scans i c

section Family

variable {ι : Type} (scans : ι → Scan α) (nothing : ∀ i, scans i [] = none)
  (step : ∀ i c, Step scans i c) (i : ι)

include nothing step

theorem suffix_of_steps {a : α} {rest : List Char} (taken : scans i text = some (a, rest)) :
    rest <:+ text.tail := by
  induction text generalizing i a with
  | nil => cases (nothing i).symm.trans taken
  | cons c text inductionHypothesis =>
    obtain ⟨j, g, goesOn⟩ | ⟨b, ends⟩ | refuses := step i c
    · rw [goesOn] at taken
      obtain ⟨found, takenToo, whole⟩ := Option.map_eq_some_iff.1 taken
      cases whole
      exact (inductionHypothesis j takenToo).trans (List.tail_suffix text)
    · cases (ends text).symm.trans taken
      exact List.suffix_refl _
    · cases (refuses text).symm.trans taken

theorem steady_of_steps : Steady (scans i) fun _ => True where
  holds _ := trivial
  suffix taken := (suffix_of_steps scans nothing step i taken).trans (List.tail_suffix _)
  steadyAt text := by
    induction text generalizing i with
    | nil => exact .inr (.of_none (nothing i) fun _ _ => suffix_of_steps scans nothing step i)
    | cons c text inductionHypothesis =>
      obtain ⟨j, g, goesOn⟩ | ⟨b, ends⟩ | refuses := step i c
      · exact (inductionHypothesis j).cons goesOn
      · exact .inl ⟨b, text, ends text, fun _ => ends _⟩
      · exact .inr (.of_none (refuses text) fun _ _ taken => nomatch (refuses _).symm.trans taken)

end Family

theorem steady_next : Steady next fun _ => True :=
  steady_of_steps (fun _ : Unit => next) (fun _ => rfl) (fun _ c => .ends c fun _ => rfl) ()

theorem steady_through (test : Char → Bool) : Steady (through test) fun _ => True := by
  refine steady_of_steps (fun _ : Unit => through test) (fun _ => rfl) (fun _ c => ?_) ()
  by_cases passes : test c
  · exact .ends ([], c) fun _ => if_pos passes
  · exact .goesOn () (fun a => (c :: a.1, a.2)) fun _ => if_neg passes

variable {rest : List Char}

/-- What is skipped behind the first character, if that is skipped. -/
theorem skip_cons (comment : Bool) (c : Char) :
    (∃ later, ∀ text, skip comment (c :: text) = skip later text) ∨
      ∀ text, skip comment (c :: text) = some ((), c :: text) := by
  cases comment with
  | true => exact .inl ⟨_, fun text => rfl⟩
  | false =>
    by_cases sign : c = '#'
    · exact .inl ⟨true, fun text => if_pos sign⟩
    · by_cases blank : Text.isBlankChar c
      · exact .inl ⟨false, fun text => (if_neg sign).trans (if_pos blank)⟩
      · exact .inr fun text => (if_neg sign).trans (if_neg blank)

theorem suffix_of_skip {comment : Bool} (taken : skip comment text = some ((), rest)) :
    rest <:+ text := by
  induction text generalizing comment with
  | nil =>
    cases taken
    exact List.suffix_refl _
  | cons c text inductionHypothesis =>
    obtain ⟨later, step⟩ | stop := skip_cons comment c
    · rw [step] at taken
      exact (inductionHypothesis taken).trans (List.suffix_cons ..)
    · rw [stop] at taken
      cases taken
      exact List.suffix_refl _

theorem steady_skip (comment : Bool) : Steady (skip comment) fun _ => True where
  holds _ := trivial
  suffix := suffix_of_skip
  steadyAt text := by
    induction text generalizing comment with
    | nil =>
      cases comment with
      | false => exact .inl ⟨(), [], rfl, fun _ => rfl⟩
      | true =>
        -- the parenthesis is part of the comment
        refine .inr ⟨fun found taken => ?_, fun _ _ taken => suffix_of_skip taken⟩
        cases taken
        exact ⟨rfl, rfl⟩
    | cons c text inductionHypothesis =>
      obtain ⟨later, step⟩ | stop := skip_cons comment c
      · exact (inductionHypothesis later).cons (g := id) fun text =>
          (step text).trans Option.map_id'.symm
      · exact .inl ⟨(), c :: text, stop text, fun _ => stop _⟩

theorem steady_blanks (verbose : Bool) : Steady (blanks verbose) fun _ => True := by
  cases verbose with
  | false => exact steady_pure trivial
  | true => exact steady_skip false

end Recursion

end DiceCalculator.Scan
