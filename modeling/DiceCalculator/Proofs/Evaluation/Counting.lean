import DiceCalculator.Proofs.Evaluation.Ledger
import Mathlib.Algebra.GroupWithZero.Nat
import Mathlib.Algebra.Order.BigOperators.Group.List
import Mathlib.Algebra.Order.Group.Nat
import Mathlib.Data.List.DropRight

/-!
# The count is exact

A ledger balances when the count is what was asked for since the last reset,
granted or not, when each request was granted exactly if the count with it was
within the limit, and when the roller has drawn the dice that were granted and
nothing else. Each step of a computation keeps the balance, so whatever is done
with a context keeps it, in any order and whatever failed before.
-/

namespace DiceCalculator

variable {α β σ : Type}

/-- The faces of dice that are drawn one after the other, and the roller after them. -/
def Roller.drawAll [Roller σ] : List Sides → σ → List Face × σ
  | [], roller => ([], roller)
  | sides :: rest, roller =>
    let (face, roller) := draw sides roller
    let (faces, roller) := drawAll rest roller
    (face :: faces, roller)

theorem Roller.drawAll_append [Roller σ] (dice more : List Sides) (roller : σ) :
    drawAll (dice ++ more) roller =
      let before := drawAll dice roller
      let after := drawAll more before.2
      (before.1 ++ after.1, after.2) := by
  induction dice generalizing roller with
  | nil => rfl
  | cons sides rest inductionHypothesis =>
    simp only [List.cons_append, drawAll, inductionHypothesis]

theorem Roller.length_drawAll [Roller σ] (dice : List Sides) (roller : σ) :
    (drawAll dice roller).1.length = dice.length := by
  induction dice generalizing roller with
  | nil => rfl
  | cons sides rest inductionHypothesis =>
    exact congrArg (· + 1) (inductionHypothesis (draw sides roller).2)

namespace Ledger

open Context

/-- The entries after the last reset. -/
def sinceReset (entries : List Entry) : List Entry :=
  entries.rtakeWhile (!·.isReset)

@[simp]
theorem sinceReset_nil : sinceReset [] = [] :=
  rfl

@[simp]
theorem sinceReset_concat (entries : List Entry) (entry : Entry) :
    sinceReset (entries ++ [entry]) =
      if entry.isReset then [] else sinceReset entries ++ [entry] := by
  cases reset : entry.isReset <;> simp [sinceReset, reset]

/-- All that was asked for since the last reset. -/
def asked (entries : List Entry) : Nat :=
  ((sinceReset entries).map Entry.asked).sum

/-- What was granted of it. -/
def granted (entries : List Entry) : Nat :=
  ((sinceReset entries).map Entry.granted).sum

@[simp]
theorem asked_concat (entries : List Entry) (entry : Entry) :
    asked (entries ++ [entry]) = if entry.isReset then 0 else asked entries + entry.asked := by
  cases reset : entry.isReset <;> simp [asked, reset]

@[simp]
theorem granted_concat (entries : List Entry) (entry : Entry) :
    granted (entries ++ [entry]) =
      if entry.isReset then 0 else granted entries + entry.granted := by
  cases reset : entry.isReset <;> simp [granted, reset]

theorem granted_le_asked (entries : List Entry) : granted entries ≤ asked entries := by
  refine List.sum_le_sum fun entry _ => ?_
  cases entry with
  | served request outcome rolls => cases outcome <;> simp [Entry.granted, Entry.asked]
  | round | reset => exact Nat.le_refl 0

/-- The faces of the granted requests since the last reset are not more than what was granted. -/
theorem length_faces_le_granted (entries : List Entry)
    (each : ∀ entry ∈ entries, entry.faces.length ≤ entry.granted) :
    ((sinceReset entries).flatMap Entry.faces).length ≤ granted entries := by
  rw [List.length_flatMap]
  exact List.sum_le_sum fun entry isSince =>
    each entry ((List.rtakeWhile_suffix ..).subset isSince)

/-- What a context does with its ledger: it grants a request or refuses it, begins a round of a
repetition, or starts to count anew. -/
inductive Step [Roller σ] (context : Context (Ledger σ)) : Entry → Context (Ledger σ) → Prop where
  | grant {request : Request} {rolls : Nat} {faces : List Face} {roller : σ}
      (count : rolls = min greatestCount (context.rolls + request.cost))
      (within : ∀ most, context.limit = some most → rolls ≤ most)
      (drawn : Roller.drawAll request.dice context.roller.roller = (faces, roller)) :
    Step context (.served request (.ok faces) rolls) ⟨context.limit, rolls,
      roller, context.roller.entries ++ [.served request (.ok faces) rolls]⟩
  | refuse {request : Request} {rolls most : Nat}
      (count : rolls = min greatestCount (context.rolls + request.cost))
      (limited : context.limit = some most) (beyond : most < rolls) :
    Step context (.served request (.error .tooManyRolls) rolls) ⟨context.limit, rolls,
      context.roller.roller,
      context.roller.entries ++ [.served request (.error .tooManyRolls) rolls]⟩
  | round : Step context .round (context.note .round)
  | reset : Step context .reset (context.reset.note .reset)

theorem exists_lt_rolls_of_isExceeded {context : Context σ} (exceeded : context.isExceeded) :
    ∃ most, context.limit = some most ∧ most < context.rolls := by
  simpa only [isExceeded, Option.any_eq_true, decide_eq_true_eq] using exceeded

theorem rolls_le_of_not_isExceeded {context : Context σ} (within : ¬context.isExceeded) (most : Nat)
    (limited : context.limit = some most) : context.rolls ≤ most := by
  simpa only [isExceeded, limited, Option.any_some, decide_eq_true_eq, Nat.not_lt] using within

namespace Step

variable [Roller σ]

/-- A request is granted or refused by the count with it, and then the dice are drawn. -/
theorem observe {context : Context (Ledger σ)} {request : Request} {faces : α → List Face}
    {serve : RollM (Ledger σ) α} {a : α} {roller : σ}
    (run : serve.runIn context =
      if (context.count request.cost).isExceeded then
        (.error .tooManyRolls, context.count request.cost)
      else (.ok a, { context.count request.cost with roller.roller := roller }))
    (drawn : Roller.drawAll request.dice context.roller.roller = (faces a, roller)) :
    let served := (Ledger.observe request faces serve).runIn context
    Step context (.served request (served.1.map faces) served.2.rolls) served.2 := by
  intro served
  have served_eq : served = ((serve.runIn context).1, (serve.runIn context).2.note
    (.served request ((serve.runIn context).1.map faces) (serve.runIn context).2.rolls)) := rfl
  rw [served_eq, run]
  by_cases exceeded : (context.count request.cost).isExceeded
  · rw [if_pos exceeded]
    obtain ⟨most, limited, beyond⟩ := exists_lt_rolls_of_isExceeded exceeded
    exact .refuse rfl limited beyond
  · rw [if_neg exceeded]
    exact .grant rfl (rolls_le_of_not_isExceeded exceeded) drawn

theorem rollDie (context : Context (Ledger σ)) (sides : Sides) :
    let served := (Ledger.rollDie sides).runIn context
    Step context (.served (.die sides) (served.1.map fun face => [face]) served.2.rolls)
      served.2 :=
  observe (RollM.runIn_rollDie sides context) rfl

theorem announce (context : Context (Ledger σ)) (n : Nat) :
    let served := (Ledger.announce n).runIn context
    Step context (.served (.rounds n) (served.1.map fun _ => []) served.2.rolls) served.2 := by
  have run : (RollM.announce n).runIn context =
      if (context.count n).isExceeded then (.error .tooManyRolls, context.count n)
      else (.ok (), context.count n) := by
    rw [RollM.announce, RollM.runIn_request]
    split <;> rfl
  exact observe run rfl

variable {context later : Context (Ledger σ)} {entry : Entry}

theorem limit_eq (step : Step context entry later) : later.limit = context.limit := by
  cases step <;> rfl

theorem entries_eq (step : Step context entry later) :
    later.roller.entries = context.roller.entries ++ [entry] := by
  cases step <;> rfl

theorem rolls_eq (step : Step context entry later) (bounded : context.rolls ≤ greatestCount) :
    later.rolls =
      if entry.isReset then 0 else min greatestCount (context.rolls + entry.asked) := by
  cases step with
  | grant count | refuse count => exact count
  | round => exact (Nat.min_eq_right bounded).symm
  | reset => rfl

theorem drawAll_eq (step : Step context entry later) :
    Roller.drawAll entry.dice context.roller.roller = (entry.faces, later.roller.roller) := by
  cases step with
  | grant _ _ drawn => exact drawn
  | refuse | round | reset => rfl

theorem length_faces_le_granted (step : Step context entry later) :
    entry.faces.length ≤ entry.granted := by
  cases step with
  | @grant request _ faces _ _ _ drawn =>
    have same := Roller.length_drawAll request.dice context.roller.roller
    rw [drawn] at same
    cases request with
    | die => exact same.le
    | rounds => exact same.trans_le (Nat.zero_le _)
  | refuse | round | reset => exact Nat.le_refl 0

/-- What is granted takes the count nowhere beyond the limit. -/
theorem rolls_le_of_granted (step : Step context entry later) (some : 0 < entry.granted)
    {most : Nat} (limited : context.limit = .some most) : later.rolls ≤ most := by
  cases step with
  | grant _ within => exact within most limited
  | refuse | round | reset => exact absurd some (Nat.lt_irrefl 0)

theorem eq_tooManyRolls {request : Request} {error : RollError} {rolls : Nat}
    (step : Step context (.served request (.error error) rolls) later) : error = .tooManyRolls := by
  cases step
  rfl

theorem lt_rolls_of_refused (step : Step context entry later) (refused : entry.isRefused) :
    ∃ most, context.limit = some most ∧ most < later.rolls := by
  cases step with
  | refuse _ limited beyond => exact ⟨_, limited, beyond⟩
  | grant | round | reset => cases refused

/-- No count is beyond the greatest one, so nothing is refused with this limit. -/
theorem not_refused (step : Step context entry later)
    (limited : context.limit = some greatestCount) : ¬entry.isRefused := by
  cases step with
  | refuse count limitedToo beyond =>
    obtain rfl := Option.some.inj (limitedToo.symm.trans limited)
    omega
  | grant | round | reset => exact nofun

end Step

/-- What came of a request, with the count after it, if these entries were there before. -/
structure Settles (limit : Option Nat) (earlier : List Entry) (request : Request)
    (outcome : Except RollError (List Face)) (rolls : Nat) : Prop where
  rolls_eq : rolls = min greatestCount (asked earlier + request.cost)
  refused_iff : outcome = .error .tooManyRolls ↔ ∃ most, limit = some most ∧ most < rolls
  granted_or_refused : outcome = .error .tooManyRolls ∨
    ∃ faces, outcome = .ok faces ∧ faces.length = request.dice.length
  refused_of_refused : (∃ entry ∈ sinceReset earlier, entry.isRefused) →
    outcome = .error .tooManyRolls

/-- The ledger of a context that began with this limit and this roller accounts for its count and
for its roller. -/
structure Balances [Roller σ] (limit : Option Nat) (roller : σ) (context : Context (Ledger σ)) :
    Prop where
  limit_eq : context.limit = limit
  rolls_eq : context.rolls = min greatestCount (asked context.roller.entries)
  settles {earlier : List Entry} {request : Request} {outcome : Except RollError (List Face)}
    {rolls : Nat} : earlier ++ [.served request outcome rolls] <+: context.roller.entries →
    Settles limit earlier request outcome rolls
  drawAll_eq : Roller.drawAll (context.roller.entries.flatMap Entry.dice) roller =
    (context.roller.entries.flatMap Entry.faces, context.roller.roller)
  granted_le {most : Nat} : limit = some most →
    min greatestCount (granted context.roller.entries) ≤ most
  faces_le : ∀ entry ∈ context.roller.entries, entry.faces.length ≤ entry.granted
  beyond_of_refused : (∃ entry ∈ sinceReset context.roller.entries, entry.isRefused) →
    ∃ most, limit = some most ∧ most < context.rolls

namespace Balances

variable [Roller σ] {limit : Option Nat} {roller : σ} {context later : Context (Ledger σ)}
  {entry : Entry}

theorem start (limit : Option Nat) (roller : σ) :
    Balances limit roller (.fresh limit ⟨roller, []⟩) where
  limit_eq := rfl
  rolls_eq := rfl
  settles isPrefix := by simp [Context.fresh] at isPrefix
  drawAll_eq := rfl
  granted_le _ := Nat.zero_le _
  faces_le := by simp [Context.fresh]
  beyond_of_refused := by simp [Context.fresh]

/-- What a served request settles, by the balance before it. -/
theorem settles_of_step (balances : Balances limit roller context) {request : Request}
    {outcome : Except RollError (List Face)} {rolls : Nat}
    (step : Step context (.served request outcome rolls) later) :
    Settles limit context.roller.entries request outcome rolls := by
  have before := balances.rolls_eq
  cases step with
  | @grant _ _ faces _ count within drawn =>
    rw [balances.limit_eq] at within
    have neverBeyond : ¬∃ most, limit = some most ∧ most < rolls := by
      rintro ⟨most, limited, beyond⟩
      exact absurd (within most limited) (Nat.not_le.2 beyond)
    have noneRefused : ¬∃ entry ∈ sinceReset context.roller.entries, entry.isRefused := by
      intro refused
      obtain ⟨most, limited, beyond⟩ := balances.beyond_of_refused refused
      exact neverBeyond ⟨most, limited, by omega⟩
    exact {
      rolls_eq := by omega
      refused_iff := by simp [neverBeyond]
      granted_or_refused := .inr ⟨faces, rfl, by
        rw [← Roller.length_drawAll request.dice context.roller.roller, drawn]⟩
      refused_of_refused := fun refused => absurd refused noneRefused }
  | @refuse _ _ most count limited beyond =>
    rw [balances.limit_eq] at limited
    exact {
      rolls_eq := by omega
      refused_iff := iff_of_true rfl ⟨most, limited, beyond⟩
      granted_or_refused := .inl rfl
      refused_of_refused := fun _ => rfl }

theorem step (balances : Balances limit roller context) (step : Step context entry later) :
    Balances limit roller later := by
  have before := balances.rolls_eq
  have rolls_eq : later.rolls = min greatestCount (asked later.roller.entries) := by
    rw [step.rolls_eq (by omega), step.entries_eq, asked_concat]
    split <;> omega
  have asked_ge := granted_le_asked later.roller.entries
  refine {
    limit_eq := step.limit_eq.trans balances.limit_eq
    rolls_eq
    settles := ?settles
    drawAll_eq := ?drawAll_eq
    granted_le := ?granted_le
    faces_le := ?faces_le
    beyond_of_refused := ?beyond_of_refused }
  case settles =>
    intro earlier request outcome rolls isPrefix
    rw [step.entries_eq] at isPrefix
    obtain whole | before := List.prefix_concat_iff.1 isPrefix
    · obtain ⟨rfl, rfl⟩ := List.append_singleton_inj.1 whole
      exact balances.settles_of_step step
    · exact balances.settles before
  case drawAll_eq =>
    simp only [step.entries_eq, List.flatMap_append, List.flatMap_singleton,
      Roller.drawAll_append, balances.drawAll_eq, step.drawAll_eq]
  case granted_le =>
    intro most limited
    -- the count may be beyond the limit by now, but then nothing is granted any more
    by_cases some : 0 < entry.granted
    · have within := step.rolls_le_of_granted some (balances.limit_eq.trans limited)
      omega
    · have granted_le := balances.granted_le limited
      rw [step.entries_eq, granted_concat]
      split <;> omega
  case faces_le =>
    rw [step.entries_eq, List.forall_mem_append, List.forall_mem_singleton]
    exact ⟨balances.faces_le, step.length_faces_le_granted⟩
  case beyond_of_refused =>
    rintro ⟨one, isSince, refused⟩
    rw [step.entries_eq, sinceReset_concat] at isSince
    split at isSince
    · cases isSince
    · rename_i notReset
      obtain before | rfl := List.mem_append.1 isSince |>.imp_right List.mem_singleton.1
      · obtain ⟨most, limited, beyond⟩ := balances.beyond_of_refused ⟨one, before, refused⟩
        -- only a reset takes the count back
        have counted := step.rolls_eq (by omega)
        rw [if_neg notReset] at counted
        exact ⟨most, limited, by omega⟩
      · rw [← balances.limit_eq]
        exact step.lt_rolls_of_refused refused

end Balances

end Ledger

namespace RollM

/-- What holds of a context before the computation holds after it, whatever comes of it. -/
def Maintains (holds : Context σ → Prop) (computation : RollM σ α) : Prop :=
  ∀ context, holds context → holds (computation.runIn context).2

namespace Maintains

variable {holds : Context σ → Prop}

theorem bind {first : RollM σ α} {next : α → RollM σ β} (maintains : Maintains holds first)
    (each : ∀ a, Maintains holds (next a)) : Maintains holds (first >>= next) := by
  intro context before
  have middle := maintains context before
  rw [runIn_bind]
  generalize first.runIn context = run at middle ⊢
  obtain ⟨error | a, later⟩ := run
  · exact middle
  · exact each a later middle

theorem addRounds {round : RollM σ Value} (maintains : Maintains holds round) (n : Nat)
    (total : Value) : Maintains holds (Dice.addRounds round n total) := by
  induction n generalizing total with
  | zero => exact fun _ before => before
  | succ n inductionHypothesis =>
    exact bind maintains fun value => inductionHypothesis (total + value)

theorem composition {τ : Type} : Dice.Composition fun α computation (_ : RollM τ α) =>
    Maintains holds computation where
  pure _ _ before := before
  throw _ _ before := before
  bind := bind

section Steps

variable [Roller σ] {holds : Context (Ledger σ) → Prop}
  (step : ∀ {context entry later}, holds context → Ledger.Step context entry later → holds later)

include step

theorem announce (n : Nat) : Maintains holds (Ledger.announce n) :=
  fun context before => step before (.announce context n)

theorem beginRound : Maintains holds (Ledger.beginRound : RollM (Ledger σ) Unit) :=
  fun _ before => step before .round

theorem reset : Maintains holds (Ledger.reset : RollM (Ledger σ) Unit) :=
  fun _ before => step before .reset

/-- An evaluation maintains what every step keeps. -/
theorem bookkeeping : Dice.Bookkeeping fun α kept (_ : RollM σ α) => Maintains holds kept where
  toComposition := composition
  rollDie sides context before := step before (.rollDie context sides)
  rounds n _ _ maintains :=
    bind (announce step n) fun _ => addRounds (bind (beginRound step) fun _ => maintains) n 0

end Steps

end Maintains

end RollM

end DiceCalculator
