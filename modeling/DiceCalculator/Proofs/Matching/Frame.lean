import DiceCalculator.Proofs.Matching.Evolution
import DiceCalculator.Proofs.Matching.Memory

/-!
# The frame of an attempt

What an attempt does to a chart that is in use, whatever is under way there and
whatever it remembers: the attempts under way stay the same, no answer is
changed or forgotten, and new ones are only for attempts up to the place that
were not under way. It comes to an answer in any such chart, since each nested
attempt that is tried leaves one attempt less to be tried.
-/

namespace DiceCalculator

open Matcher

variable {α : Type}

/-- No answer is remembered for an attempt that is under way. -/
def Chart.Apart (chart : Chart α) : Prop :=
  ∀ key ∈ chart.underWay, chart.answers[key]? = none

/-- The later chart is one that an attempt at the place can make of the chart. -/
structure Frame (place : Nat) (chart later : Chart α) : Prop where
  underWay_eq : later.underWay = chart.underWay
  keeps (key : Attempt) (answer : Option (Match α)) :
    chart.answers[key]? = some answer → later.answers[key]? = some answer
  adds (key : Attempt) (answer : Option (Match α)) :
    later.answers[key]? = some answer →
      chart.answers[key]? = some answer ∨ key.stop ≤ place ∧ key ∉ chart.underWay

namespace Frame

variable {place : Nat} {chart middle later : Chart α} {key : Attempt}

theorem refl (place : Nat) (chart : Chart α) : Frame place chart chart where
  underWay_eq := rfl
  keeps _ _ known := known
  adds _ _ known := .inl known

theorem trans (first : Frame place chart middle) (second : Frame place middle later) :
    Frame place chart later where
  underWay_eq := second.underWay_eq.trans first.underWay_eq
  keeps key answer known := second.keeps key answer (first.keeps key answer known)
  adds key answer known := by
    rcases second.adds key answer known with earlier | added
    · exact first.adds key answer earlier
    · rw [first.underWay_eq] at added
      exact .inr added

theorem mono {wider : Nat} (frame : Frame place chart later) (le : place ≤ wider) :
    Frame wider chart later where
  underWay_eq := frame.underWay_eq
  keeps := frame.keeps
  adds key answer known := (frame.adds key answer known).imp_right fun added =>
    ⟨added.1.trans le, added.2⟩

theorem note (place : Nat) (chart : Chart α) (event : Event) :
    Frame place chart (chart.note event) where
  underWay_eq := rfl
  keeps _ _ known := known
  adds _ _ known := .inl known

/-- An attempt that is tried adds its own answer to what the attempts below it add. -/
theorem settle {answer : Option (Match α)} (unknown : chart.answers[key]? = none)
    (outside : key ∉ chart.underWay) (inner : Frame key.stop (chart.enter key) later) :
    Frame key.stop chart (later.settle true key answer) where
  underWay_eq := by
    rw [Chart.underWay_settle, inner.underWay_eq]
    exact List.erase_cons_head ..
  keeps other found known := by
    rw [Chart.answers_settle, if_neg]
    · exact inner.keeps other found known
    · rintro rfl
      simp [unknown] at known
  adds other found known := by
    rw [Chart.answers_settle] at known
    split at known
    · rename_i same
      cases same
      exact .inr ⟨le_rfl, outside⟩
    · exact (inner.adds other found known).imp_right fun added =>
        ⟨added.1, fun inside => added.2 (List.mem_cons_of_mem _ inside)⟩

theorem apart (frame : Frame place chart later) (apart : chart.Apart) : later.Apart := by
  intro key inside
  rw [frame.underWay_eq] at inside
  cases known : later.answers[key]? with
  | none => rfl
  | some answer =>
    rcases frame.adds key answer known with earlier | added
    · simp [apart key inside] at earlier
    · exact absurd inside added.2

end Frame

namespace Grammar

variable {grammar : Grammar α} {tokens : List Token} {underWay : List Attempt} {key : Attempt}

/-- The attempts up to the place that are not under way, by the places of their rules. -/
def idle (grammar : Grammar α) (place : Nat) (underWay : List Attempt) : Finset (Nat × Nat) :=
  (Finset.range grammar.rules.length ×ˢ Finset.range (place + 1)).filter
    fun pair => (⟨⟨pair.1⟩, pair.2⟩ : Attempt) ∉ underWay

theorem card_idle_le (grammar : Grammar α) (place : Nat) (underWay : List Attempt) :
    (grammar.idle place underWay).card ≤ grammar.rules.length * (place + 1) := by
  refine (Finset.card_filter_le _ _).trans_eq ?_
  rw [Finset.card_product, Finset.card_range, Finset.card_range]

theorem mem_idle {rule : Rule α} (known : grammar.rule? key.rule = some rule)
    (outside : key ∉ underWay) : (key.rule.index, key.stop) ∈ grammar.idle key.stop underWay := by
  have index_lt : key.rule.index < grammar.rules.length := (List.getElem?_eq_some_iff.1 known).1
  simpa [idle, index_lt] using outside

/-- While an attempt is under way there is one less that is not. -/
theorem card_idle_lt {rule : Rule α} {place : Nat} (known : grammar.rule? key.rule = some rule)
    (outside : key ∉ underWay) (le : place ≤ key.stop) :
    (grammar.idle place (key :: underWay)).card < (grammar.idle key.stop underWay).card := by
  refine Finset.card_lt_card (Finset.ssubset_iff_of_subset ?_ |>.2
    ⟨_, mem_idle known outside, by simp [idle]⟩)
  intro pair member
  simp only [idle, Finset.mem_filter, Finset.mem_product, Finset.mem_range, List.mem_cons,
    not_or] at member ⊢
  exact ⟨⟨member.1.1, by omega⟩, member.2.2⟩

/-- Of the four ways to answer an attempt only the last one, to try the rule, changes what the
chart remembers. -/
theorem exists_frame_consult {tried : Rule α → Matcher α (Option (Match α))} {chart : Chart α}
    (each : ∀ rule, chart.answers[key]? = none → key ∉ chart.underWay →
      grammar.rule? key.rule = some rule →
      ∃ answer later, (tried rule).run chart = some (answer, later) ∧
        Frame key.stop chart later ∧ later.answers[key]? = some answer) :
    ∃ answer later, (consult grammar true key tried).run chart = some (answer, later) ∧
      Frame key.stop chart later ∧
      (key ∉ chart.underWay → grammar.rule? key.rule ≠ none →
        later.answers[key]? = some answer) := by
  rw [run_consult, if_pos rfl]
  cases recalled : chart.answers[key]? with
  | some answer => exact ⟨answer, chart, rfl, .refl _ _, fun _ _ => recalled⟩
  | none =>
    by_cases inside : key ∈ chart.underWay
    · refine ⟨none, chart.note (.reentered key.rule key.stop), ?_, .note _ _ _,
        fun outside => absurd inside outside⟩
      simp only [inside, ↓reduceIte]
    · simp only [inside, ↓reduceIte]
      cases known : grammar.rule? key.rule with
      | none => exact ⟨none, chart, rfl, .refl _ _, fun _ missing => absurd rfl missing⟩
      | some rule =>
        obtain ⟨answer, later, run, frame, remembered⟩ := each rule recalled inside known
        exact ⟨answer, later, run, frame, fun _ _ => remembered⟩

/-- An attempt comes to an answer in any chart and keeps to its frame, given an allowance for all
the attempts that are not under way yet. -/
theorem exists_frame (tokens : List Token) {allowance : Nat} {chart : Chart α}
    (enough : (grammar.idle key.stop chart.underWay).card ≤ allowance) :
    ∃ answer later,
      (attempt grammar tokens true allowance key).run chart = some (answer, later) ∧
      Frame key.stop chart later ∧
      (key ∉ chart.underWay → grammar.rule? key.rule ≠ none →
        later.answers[key]? = some answer) := by
  induction allowance generalizing key chart with
  | zero =>
    apply exists_frame_consult
    intro rule _ outside known
    have := Finset.card_pos.2 ⟨_, mem_idle known outside⟩
    omega
  | succ allowance inductionHypothesis =>
    apply exists_frame_consult
    intro rule unknown outside known
    -- The attempts below keep to the frame of this one, from wherever those before have led.
    have each : ∀ next, ChoiceReach (fun _ _ => True) tokens key.stop rule.alternatives next →
        Keeps (Frame key.stop (chart.enter key)) (attempt grammar tokens true allowance next)
          (fun _ => True) := by
      intro next reached inner framed
      have fewer : (grammar.idle next.stop inner.underWay).card ≤ allowance := by
        have less := card_idle_lt known outside reached.stop_le
        rw [framed.underWay_eq]
        exact Nat.le_of_lt_succ (less.trans_le enough)
      obtain ⟨answer, later, run, frame, -⟩ := inductionHypothesis fewer
      exact ⟨answer, later, run, framed.trans (frame.mono reached.stop_le), trivial⟩
    obtain ⟨answer, last, run, framed, -⟩ :=
      keeps_firstMatch each (fun _ _ _ _ _ _ _ framed => framed.trans (.note _ _ _))
        (chart.enter key) (.refl _ _)
    refine ⟨answer, last.settle true key answer, ?_, framed.settle unknown outside, ?_⟩
    · rw [run_tryRule_eq_settle, run, Option.map_some]
    · rw [Chart.answers_settle, if_pos rfl]

theorem run_attempt_of_underWay (grammar : Grammar α) (tokens : List Token) (allowance : Nat)
    {chart : Chart α}
    (unknown : chart.answers[key]? = none) (inside : key ∈ chart.underWay) :
    (attempt grammar tokens true allowance key).run chart =
      some (none, chart.note (.reentered key.rule key.stop)) := by
  cases allowance <;> simp [attempt, run_consult, unknown, inside]

/-- With memory an attempt in a chart that remembers nothing of what is under way comes to an answer
and leaves what is under way as it was. It changes and forgets no answer and adds answers only for
attempts up to its place that were not under way, so that nothing under way is remembered
afterwards. It is remembered itself, unless it was under way: then it fails and the chart is as it
was, but for the note. -/
theorem attempt_framed (grammar : Grammar α) (tokens : List Token) (chart : Chart α)
    (apart : chart.Apart) (key : Attempt) (known : key.rule.index < grammar.rules.length)
    (allowance : Nat) (enough : grammar.rules.length * (key.stop + 1) ≤ allowance) :
    ∃ (answer : Option (Match α)) (later : Chart α),
      (attempt grammar tokens true allowance key).run chart = some (answer, later) ∧
      later.underWay = chart.underWay ∧
      (∀ (other : Attempt) found,
        chart.answers[other]? = some found → later.answers[other]? = some found) ∧
      (∀ other : Attempt, later.answers[other]? ≠ chart.answers[other]? →
        chart.answers[other]? = none ∧ other.stop ≤ key.stop ∧ other ∉ chart.underWay) ∧
      later.Apart ∧
      (key ∉ chart.underWay → later.answers[key]? = some answer) ∧
      (key ∈ chart.underWay →
        answer = none ∧ later = chart.note (.reentered key.rule key.stop)) := by
  obtain ⟨answer, later, run, frame, remembered⟩ :=
    exists_frame tokens ((grammar.card_idle_le key.stop chart.underWay).trans enough)
  refine ⟨answer, later, run, frame.underWay_eq, frame.keeps, ?_, frame.apart apart, ?_, ?_⟩
  · intro other differs
    cases before : chart.answers[other]? with
    | some found => exact absurd ((frame.keeps other found before).trans before.symm) differs
    | none =>
      rw [before] at differs
      obtain ⟨found, added⟩ := Option.ne_none_iff_exists'.1 differs
      refine ⟨rfl, (frame.adds other found added).resolve_left ?_⟩
      simp [before]
  · intro outside
    refine remembered outside ?_
    rw [rule?, List.getElem?_eq_getElem known]
    exact Option.some_ne_none _
  · intro inside
    have again := run_attempt_of_underWay grammar tokens allowance (apart key inside) inside
    cases run.symm.trans again
    exact ⟨rfl, rfl⟩

/-- The third rule of `roundabout` is tried while the first one is under way. It tries that one
again, then the second one, which is remembered, and is remembered itself. -/
theorem attempt_framed_roundabout :
    let chart : Chart Nat :=
      { answers := Std.TreeMap.empty.insert ⟨⟨1⟩, 1⟩ none, underWay := [⟨⟨0⟩, 1⟩] }
    let key : Attempt := ⟨⟨2⟩, 1⟩
    chart.Apart ∧ key.rule.index < roundabout.rules.length ∧
    ∃ (answer : Option (Match Nat)) (later : Chart Nat),
      (attempt roundabout [⟨.number, "1"⟩] true 6 key).run chart = some (answer, later) ∧
      later.underWay = [⟨⟨0⟩, 1⟩] ∧
      (∀ (other : Attempt) found,
        chart.answers[other]? = some found → later.answers[other]? = some found) ∧
      (∀ other : Attempt, later.answers[other]? ≠ chart.answers[other]? →
        chart.answers[other]? = none ∧ other.stop ≤ 1 ∧ other ∉ chart.underWay) ∧
      later.Apart ∧
      (key ∉ chart.underWay → later.answers[key]? = some answer) ∧
      (key ∈ chart.underWay →
        answer = none ∧ later = chart.note (.reentered key.rule key.stop)) := by
  intro chart key
  have apart : chart.Apart := by
    intro under inside
    obtain rfl := List.mem_singleton.1 inside
    decide
  exact ⟨apart, by decide,
    attempt_framed roundabout _ chart apart key (by decide) 6 (by decide)⟩

end Grammar

end DiceCalculator
