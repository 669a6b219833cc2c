import DiceCalculator.Dice.Grammar
import DiceCalculator.Proofs.Evaluation.Counting
import DiceCalculator.Tokenizer.Dice

/-!
# A limit on the count is a limit on the work

The work of an evaluation is the faces that are drawn and the rounds that are
begun. A round is begun only after all rounds of its repetition were granted, so
each is paid for beforehand, however repetitions are nested. What is begun is
therefore never more than what is granted, also when an evaluation is cut off in
the middle of a round, and a refused request is the last thing that happens.
-/

namespace DiceCalculator

variable {α β σ : Type}

namespace Ledger

open Context

/-- The faces that were drawn and the rounds that were begun. -/
def work (entries : List Entry) : Nat :=
  (entries.flatMap Entry.faces).length + (entries.map Entry.rounds).sum

def paid (entries : List Entry) : Nat :=
  (entries.map Entry.granted).sum

@[simp]
theorem work_append (entries more : List Entry) :
    work (entries ++ more) = work entries + work more := by
  simp only [work, List.flatMap_append, List.length_append, List.map_append, List.sum_append]
  omega

@[simp]
theorem paid_append (entries more : List Entry) :
    paid (entries ++ more) = paid entries + paid more := by
  simp only [paid, List.map_append, List.sum_append]

/-- An evaluation goes on after this, and counts on. -/
structure GoesOn (entry : Entry) : Prop where
  not_refused : ¬entry.isRefused
  not_reset : ¬entry.isReset

theorem granted_eq_paid {entries : List Entry} (noReset : ∀ entry ∈ entries, ¬entry.isReset) :
    granted entries = paid entries := by
  have whole : sinceReset entries = entries := by
    simpa [sinceReset, List.rtakeWhile_eq_self_iff] using noReset
  rw [granted, whole, paid]

/-- What a computation adds to a ledger if `before` rounds are paid for when it begins and `after`
of them when it is done. A refusal ends it, and nothing is added then. -/
inductive Adds (before after : Nat) : Except RollError α → List Entry → Prop where
  | done {a : α} {entries : List Entry} (each : ∀ entry ∈ entries, GoesOn entry)
      (covered : work entries + after ≤ paid entries + before) :
    Adds before after (.ok a) entries
  | failed {error : RollError} {entries : List Entry} (each : ∀ entry ∈ entries, GoesOn entry)
      (covered : work entries ≤ paid entries + before) :
    Adds before after (.error error) entries
  | refused {entries : List Entry} {request : Request} {rolls : Nat}
      (each : ∀ entry ∈ entries, GoesOn entry)
      (covered : work entries ≤ paid entries + before) :
    Adds before after (.error .tooManyRolls)
      (entries ++ [.served request (.error .tooManyRolls) rolls])

namespace Adds

variable {before middle after : Nat} {outcome : Except RollError α} {entries more : List Entry}

theorem of_error {error : RollError}
    (adds : Adds before middle (.error error : Except RollError α) entries) :
    Adds before after (.error error : Except RollError β) entries := by
  cases adds with
  | failed each covered => exact .failed each covered
  | refused each covered => exact .refused each covered

/-- The first request is refused. -/
theorem of_refused {request : Request} {rolls : Nat} :
    Adds before after (.error .tooManyRolls : Except RollError α)
      [.served request (.error .tooManyRolls) rolls] :=
  have noneBefore : ∀ entry ∈ ([] : List Entry), GoesOn entry := nofun
  .refused noneBefore (Nat.zero_le _)

theorem append {a : β} (adds : Adds before middle (.ok a) entries)
    (later : Adds middle after outcome more) : Adds before after outcome (entries ++ more) := by
  obtain ⟨each, covered⟩ := adds
  cases later with
  | done eachLater coveredLater =>
    refine .done (List.forall_mem_append.2 ⟨each, eachLater⟩) ?_
    rw [work_append, paid_append]
    omega
  | failed eachLater coveredLater =>
    refine .failed (List.forall_mem_append.2 ⟨each, eachLater⟩) ?_
    rw [work_append, paid_append]
    omega
  | refused eachLater coveredLater =>
    rw [← List.append_assoc]
    refine .refused (List.forall_mem_append.2 ⟨each, eachLater⟩) ?_
    rw [work_append, paid_append]
    omega

theorem frame (adds : Adds before after outcome entries) (n : Nat) :
    Adds (before + n) (after + n) outcome entries := by
  cases adds with
  | done each covered => exact .done each (by omega)
  | failed each covered => exact .failed each (by omega)
  | refused each covered => exact .refused each (by omega)

theorem work_le (adds : Adds 0 after outcome entries) : work entries ≤ paid entries := by
  cases adds with
  | done each covered => omega
  | failed each covered => exact covered
  | @refused front request rolls each covered =>
    rw [work_append, paid_append]
    exact Nat.add_le_add covered (Nat.le_refl 0)

theorem not_reset (adds : Adds before after outcome entries) :
    ∀ entry ∈ entries, ¬entry.isReset := by
  cases adds with
  | done each | failed each => exact fun entry isNew => (each entry isNew).not_reset
  | refused each =>
    rw [List.forall_mem_append, List.forall_mem_singleton]
    exact ⟨fun entry isNew => (each entry isNew).not_reset, nofun⟩

/-- After a refused request nothing else was done. -/
theorem eq_nil_of_refused (adds : Adds before after outcome entries) {earlier later : List Entry}
    {request : Request} {error : RollError} {rolls : Nat}
    (eq_append : entries = earlier ++ .served request (.error error) rolls :: later) :
    later = [] ∧ outcome = .error .tooManyRolls := by
  cases adds with
  | done each | failed each =>
    have goesOn := each (.served request (.error error) rolls) (by simp [eq_append])
    exact absurd rfl goesOn.not_refused
  | refused each =>
    obtain rfl | ⟨init, last, rfl⟩ := later.eq_nil_or_concat
    · exact ⟨rfl, rfl⟩
    · rw [List.concat_eq_append, ← List.cons_append, ← List.append_assoc,
        List.append_singleton_inj] at eq_append
      have goesOn := each (.served request (.error error) rolls) (by simp [eq_append.1])
      exact absurd rfl goesOn.not_refused

end Adds

/-- The computation does no work that is not granted or paid for before. -/
def Pays (before after : Nat) (computation : RollM (Ledger σ) α) : Prop :=
  ∀ context, ∃ entries,
    (computation.runIn context).2.roller.entries = context.roller.entries ++ entries ∧
      Adds before after (computation.runIn context).1 entries

namespace Pays

variable {before middle after : Nat}

theorem bind {first : RollM (Ledger σ) α} {next : α → RollM (Ledger σ) β}
    (pays : Pays before middle first) (each : ∀ a, Pays middle after (next a)) :
    Pays before after (first >>= next) := by
  intro context
  obtain ⟨entries, entries_eq, adds⟩ := pays context
  rw [RollM.runIn_bind]
  generalize first.runIn context = run at entries_eq adds ⊢
  obtain ⟨error | a, later⟩ := run
  · exact ⟨entries, entries_eq, adds.of_error⟩
  · obtain ⟨more, more_eq, addsMore⟩ := each a later
    refine ⟨entries ++ more, ?_, adds.append addsMore⟩
    rw [more_eq, entries_eq, List.append_assoc]

theorem frame {computation : RollM (Ledger σ) α} (pays : Pays before after computation) (n : Nat) :
    Pays (before + n) (after + n) computation := by
  intro context
  obtain ⟨entries, entries_eq, adds⟩ := pays context
  exact ⟨entries, entries_eq, adds.frame n⟩

theorem pure (a : α) : Pays 0 0 (pure a : RollM (Ledger σ) α) :=
  fun _ => ⟨[], (List.append_nil _).symm, .done nofun (Nat.le_refl 0)⟩

theorem throw (error : RollError) : Pays 0 0 (throw error : RollM (Ledger σ) α) :=
  fun _ => ⟨[], (List.append_nil _).symm, .failed nofun (Nat.le_refl 0)⟩

theorem composition {τ : Type} : Dice.Composition fun α computation (_ : RollM τ α) =>
    Pays 0 0 (σ := σ) computation where
  pure := pure
  throw := throw
  bind := bind

/-- One of the rounds that are paid for is begun. -/
theorem beginRound : Pays 1 0 (Ledger.beginRound : RollM (Ledger σ) Unit) :=
  fun _ => ⟨[.round], rfl, .done (by simpa using ⟨nofun, nofun⟩) (Nat.le_refl 1)⟩

theorem addRounds {round : RollM (Ledger σ) Value} (pays : Pays 0 0 round) (n : Nat)
    (total : Value) : Pays n 0 (Dice.addRounds (do Ledger.beginRound; round) n total) := by
  induction n generalizing total with
  | zero => exact pure total
  | succ n inductionHypothesis =>
    -- the round itself owes nothing, so it leaves the other n rounds paid for
    have first : Pays (n + 1) n (do Ledger.beginRound; round) := by
      have begun := (beginRound (σ := σ)).frame n
      have framed := pays.frame n
      rw [Nat.zero_add] at begun framed
      rw [Nat.add_comm 1 n] at begun
      exact begun.bind fun _ => framed
    exact first.bind fun value => inductionHypothesis (total + value)

section Requests

variable [Roller σ]

theorem rollDie (sides : Sides) : Pays 0 0 (Ledger.rollDie sides : RollM (Ledger σ) Face) := by
  intro context
  have step := Step.rollDie context sides
  refine ⟨_, step.entries_eq, ?_⟩
  generalize (Ledger.rollDie sides).runIn context = run at step ⊢
  obtain ⟨error | face, later⟩ := run
  · obtain rfl := step.eq_tooManyRolls
    exact .of_refused
  · exact .done (by simpa using ⟨nofun, nofun⟩) (Nat.le_refl 1)

/-- All rounds of a repetition are paid for when they are granted. -/
theorem announce (n : Nat) : Pays 0 n (Ledger.announce n : RollM (Ledger σ) Unit) := by
  intro context
  have step := Step.announce context n
  refine ⟨_, step.entries_eq, ?_⟩
  generalize (Ledger.announce n).runIn context = run at step ⊢
  obtain ⟨error | _, later⟩ := run
  · obtain rfl := step.eq_tooManyRolls
    exact .of_refused
  · exact .done (by simpa using ⟨nofun, nofun⟩) (Nat.le_of_eq (Nat.add_comm 0 n))

theorem bookkeeping : Dice.Bookkeeping fun α kept (_ : RollM σ α) => Pays 0 0 kept where
  toComposition := composition
  rollDie := rollDie
  rounds n _ _ pays := (announce n).bind fun _ => addRounds pays n 0

end Requests

end Pays

end Ledger

namespace Dice

open Context Ledger

variable [Roller σ]

/-- An evaluation with a limit, whatever it comes to, draws no more faces and begins no more rounds
than the limit, both together, unless the limit is the greatest count there is. If a request is
refused, the evaluation ends there, so no round is begun of a repetition that was refused. -/
theorem evaluate_work_le (tree : Tree Action) (limit : Nat) (roller : σ) :
    let kept := (evaluateKept tree).runIn (.fresh (some limit) ⟨roller, []⟩)
    let entries := kept.2.roller.entries
    (evaluate tree).runIn (.fresh (some limit) roller) = (kept.1, kept.2.unkept) ∧
    Roller.drawAll (entries.flatMap Entry.dice) roller =
      (entries.flatMap Entry.faces, kept.2.roller.roller) ∧
    (limit < greatestCount →
      (entries.flatMap Entry.faces).length + (entries.map Entry.rounds).sum ≤ limit) ∧
    ∀ earlier request error rolls later,
      entries = earlier ++ .served request (.error error) rolls :: later →
      later = [] ∧ kept.1 = .error .tooManyRolls := by
  intro kept entries
  have balances : Balances (some limit) roller kept.2 :=
    (RollM.Maintains.bookkeeping .step).evaluate tree _ (.start (some limit) roller)
  obtain ⟨added, entries_eq, adds⟩ :=
    Pays.bookkeeping.evaluate tree (.fresh (some limit) ⟨roller, []⟩)
  obtain rfl : entries = added := entries_eq
  have granted_le : min greatestCount (granted entries) ≤ limit := balances.granted_le rfl
  have work_le : work entries ≤ granted entries :=
    adds.work_le.trans_eq (granted_eq_paid adds.not_reset).symm
  refine ⟨runIn_unkept tree (.fresh (some limit) ⟨roller, []⟩), balances.drawAll_eq,
    fun below => ?_, fun _ _ _ _ _ => adds.eq_nil_of_refused⟩
  calc work entries
    _ ≤ granted entries := work_le
    _ ≤ limit := by omega

/-- Two rounds are granted and the first one is begun, but its die is one request too many. -/
theorem evaluate_work_le_two_dice :
    let two : Tree Action := .leaf .number ⟨.number, "2"⟩
    let die : Tree Action := .leaf .die ⟨.dice, "d6"⟩
    let tree : Tree Action := .branch .rounds [two, die]
    let kept := (evaluateKept tree).runIn (.fresh (some 2) ⟨({} : Highest), []⟩)
    let entries := kept.2.roller.entries
    entries = [.served (.rounds 2) (.ok []) 2, .round,
      .served (.die { count := 6 }) (.error .tooManyRolls) 3] ∧
    2 < greatestCount ∧
    (entries.flatMap Entry.faces).length + (entries.map Entry.rounds).sum ≤ 2 ∧
    kept.1 = .error .tooManyRolls := by
  intro two die tree kept entries
  have whole := evaluate_work_le tree 2 ({} : Highest)
  have below : 2 < greatestCount := by decide
  have refused : entries = [.served (.rounds 2) (.ok []) 2, .round] ++
      .served (.die { count := 6 }) (.error .tooManyRolls) 3 :: [] := rfl
  exact ⟨refused, below, whole.2.2.1 below, (whole.2.2.2 _ _ _ _ _ refused).2⟩

section GreatestLimit

/-- The rounds that were begun so far. -/
def begun (context : Context (Ledger σ)) : Nat :=
  (context.roller.entries.map Entry.rounds).sum

/-- With the greatest count as the limit, the computation succeeds and begins `n` rounds. -/
def Begins (n : Nat) (computation : RollM (Ledger σ) α) : Prop :=
  ∀ context, context.limit = some greatestCount → ∃ a later,
    computation.runIn context = (.ok a, later) ∧ later.limit = some greatestCount ∧
      begun later = begun context + n

namespace Begins

variable {m n : Nat}

omit [Roller σ] in
theorem pure (a : α) : Begins 0 (pure a : RollM (Ledger σ) α) :=
  fun context limited => ⟨a, context, rfl, limited, rfl⟩

omit [Roller σ] in
theorem bind {first : RollM (Ledger σ) α} {next : α → RollM (Ledger σ) β} (begins : Begins m first)
    (each : ∀ a, Begins n (next a)) : Begins (m + n) (first >>= next) := by
  intro context limited
  obtain ⟨a, middle, run, limitedMiddle, begunMiddle⟩ := begins context limited
  obtain ⟨b, later, runLater, limitedLater, begunLater⟩ := each a middle limitedMiddle
  exact ⟨b, later, (RollM.runIn_bind_of_ok run).trans runLater, limitedLater, by omega⟩

omit [Roller σ] in
theorem beginRound : Begins 1 (Ledger.beginRound : RollM (Ledger σ) Unit) :=
  fun context limited =>
    ⟨(), context.note .round, rfl, limited, by simp [begun, note, Entry.rounds]⟩

omit [Roller σ] in
theorem addRounds {round : RollM (Ledger σ) Value} (begins : Begins m round) (n : Nat)
    (total : Value) : Begins (n * m) (addRounds round n total) := by
  induction n generalizing total with
  | zero =>
    rw [Nat.zero_mul]
    exact pure total
  | succ n inductionHypothesis =>
    rw [Nat.succ_mul, Nat.add_comm]
    exact begins.bind fun value => inductionHypothesis (total + value)

/-- All rounds are granted. -/
theorem announce (n : Nat) : Begins 0 (Ledger.announce n : RollM (Ledger σ) Unit) := by
  intro context limited
  have step := Step.announce context n
  have granted := step.not_refused limited
  have begun_eq : begun ((Ledger.announce n).runIn context).2 = begun context := by
    rw [begun, step.entries_eq]
    simp [begun, Entry.rounds]
  generalize (Ledger.announce n).runIn context = run at step granted begun_eq ⊢
  obtain ⟨error | _, later⟩ := run
  · exact absurd rfl granted
  · exact ⟨(), later, rfl, step.limit_eq.trans limited, begun_eq⟩

/-- A repetition begins its rounds, and in each of them what the second operand begins. -/
theorem rounds {second : Tree Action} (part : second.isLiteral = false)
    (begins : Begins m (evaluateKept second : RollM (Ledger σ) Values)) (text : String) :
    Begins ((Value.ofNumeral text).toInt.toNat * (1 + m))
      (evaluateKept (.branch .rounds [.branch .same [.leaf .number ⟨.number, text⟩], second]) :
        RollM (Ledger σ) Values) := by
  have kept_eq : (evaluateKept (.branch .rounds [.branch .same [.leaf .number ⟨.number, text⟩],
      second]) : RollM (Ledger σ) Values) = do
        Ledger.announce (Value.ofNumeral text).toInt.toNat
        let total ← Dice.addRounds (do
          Ledger.beginRound
          return (← evaluateKept second).first) (Value.ofNumeral text).toInt.toNat 0
        return .single total := by
    cases second with
    | literal => cases part
    | leaf | branch => rfl
  rw [kept_eq]
  generalize (Value.ofNumeral text).toInt.toNat = n
  have round := beginRound.bind fun _ => begins.bind fun values => pure values.first
  have whole := (announce n).bind fun _ =>
    (round.addRounds n 0).bind fun total => pure (Values.single total)
  rwa [Nat.zero_add, Nat.add_zero, Nat.add_zero] at whole

end Begins

/-- The greatest count as the limit permits any number of rounds: each of these rounds begins as
many rounds again. -/
theorem evaluate_work_greatest :
    let number (text : String) : Tree Action := .branch .same [.leaf .number ⟨.number, text⟩]
    let nested (inner : Tree Action) : Tree Action :=
      .branch .same [.branch .same [.literal ⟨.literal, "("⟩, inner, .literal ⟨.literal, ")"⟩]]
    let tree : Tree Action := .branch .same [.branch .same [.branch .rounds [
      number "9223372036854775807",
      nested (.branch .rounds [number "9223372036854775807", number "1"])]]]
    let kept := (evaluateKept tree).runIn (.fresh (some greatestCount) ⟨({} : Highest), []⟩)
    let entries := kept.2.roller.entries
    tokenize "9223372036854775807 (9223372036854775807 1)" = .ok tree.tokens ∧
    (grammar.parse tree.tokens).found = some ⟨0, tree⟩ ∧ (∃ values, kept.1 = .ok values) ∧
    greatestCount < (entries.flatMap Entry.faces).length + (entries.map Entry.rounds).sum := by
  intro number nested tree kept entries
  have cut : tokenize "9223372036854775807 (9223372036854775807 1)" = .ok tree.tokens := by
    decide +kernel
  have found : (grammar.parse tree.tokens).found = some ⟨0, tree⟩ := by decide +kernel
  have one : Begins 0 (evaluateKept (number "1") : RollM (Ledger Highest) Values) := .pure _
  have inner := one.rounds rfl "9223372036854775807"
  have enclosed : Begins _ (evaluateKept (nested (.branch .rounds [number "9223372036854775807",
    number "1"])) : RollM (Ledger Highest) Values) := inner
  have outer := enclosed.rounds rfl "9223372036854775807"
  obtain ⟨values, later, run, -, begun_eq⟩ := outer (.fresh (some greatestCount) ⟨{}, []⟩) rfl
  have count : (Value.ofNumeral "9223372036854775807").toInt.toNat = 9223372036854775807 := by
    decide +kernel
  have kept_eq : kept = (.ok values, later) := run
  clear_value kept
  subst kept_eq
  have rounds_eq : (entries.map Entry.rounds).sum = begun later := rfl
  refine ⟨cut, found, ⟨values, rfl⟩, ?_⟩
  calc greatestCount
    _ < begun (.fresh (some greatestCount) ⟨({} : Highest), []⟩) +
          9223372036854775807 * (1 + 9223372036854775807 * (1 + 0)) := by decide
    _ = (entries.map Entry.rounds).sum := by rw [rounds_eq, begun_eq, count]
    _ ≤ (entries.flatMap Entry.faces).length + (entries.map Entry.rounds).sum :=
      Nat.le_add_left ..

end GreatestLimit

end Dice

end DiceCalculator
