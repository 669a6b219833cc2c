import DiceCalculator.Grammar.Builder
import Mathlib.Data.List.Nodup

/-!
# Building keeps names and alternatives

A grammar is built by calls in any order: rules are declared before or after
they are referred to, and punctuation may be asked for again and again. What is
in the end at a place is told by the calls alone. The invariant is that the
names are those that were asked for, each of them once and at the place that was
returned for it, and that the alternatives at each place are those of a ledger
that reads the calls one after the other.
-/

namespace DiceCalculator.Grammar.Builder

variable {α : Type}

inductive Call (α : Type) where
  | rule (sought : RuleName)
  | literal (text : String)
  | addTerminal (id : RuleId) (kind : Token.Kind) (action : α)
  | addLiteral (id : RuleId) (text : String)
  | addSequence (id : RuleId) (parts : List RuleId) (action : α)

namespace Call

/-- The place that the call returns, if it returns one, and the builder after it. -/
def run : Call α → Builder α → Option RuleId × Builder α
  | .rule sought, builder => (builder.rule sought).map some id
  | .literal text, builder => (builder.literal text).map some id
  | .addTerminal id kind action, builder => (none, builder.addTerminal id kind action)
  | .addLiteral id text, builder => (none, builder.addLiteral id text)
  | .addSequence id parts action, builder => (none, builder.addSequence id parts action)

/-- The name of the rule that the call asks for. -/
def name? : Call α → Option RuleName
  | .rule sought => some sought
  | .literal text => some (.literal text)
  | _ => none

/-- The place of the rule that the call is told to give an alternative. -/
def target? : Call α → Option RuleId
  | .rule _ => none
  | .literal _ => none
  | .addTerminal id _ _ => some id
  | .addLiteral id _ => some id
  | .addSequence id _ _ => some id

end Call

/-- A call and the place that it returned, if any. -/
structure Entry (α : Type) where
  call : Call α
  returned : Option RuleId

namespace Entry

/-- The place of the only rule whose alternatives may be other ones after the call. -/
def subject? (entry : Entry α) : Option RuleId :=
  match entry.call with
  | .rule _ => none
  | .literal _ => entry.returned
  | call => call.target?

/-- The alternatives at a place after the call, if these were there before: one more if the call was
told to add it there, and the punctuation if it was asked for and nothing was there. -/
def extend (entry : Entry α) (id : RuleId) (before : List (Alternative α)) :
    List (Alternative α) :=
  match entry.call with
  | .rule _ => before
  | .literal text =>
    if entry.returned = some id ∧ before.isEmpty then [.literal text] else before
  | .addTerminal own kind action => if own = id then before ++ [.terminal kind action] else before
  | .addLiteral own text => if own = id then before ++ [.literal text] else before
  | .addSequence own parts action =>
    if own = id then before ++ [.sequence parts action] else before

end Entry

/-- What the calls add to the alternatives at a place, one after the other. -/
def added (entries : List (Entry α)) (id : RuleId) : List (Alternative α) :=
  entries.foldl (fun before entry => entry.extend id before) []

/-- The call adds to no rule but to one whose place was returned. -/
def Call.MayFollow (call : Call α) (entries : List (Entry α)) : Prop :=
  ∀ id ∈ call.target?, ∃ entry ∈ entries, entry.returned = some id

instance (call : Call α) (entries : List (Entry α)) : Decidable (call.MayFollow entries) :=
  inferInstanceAs (Decidable (∀ id ∈ call.target?, ∃ entry ∈ entries, entry.returned = some id))

/-- The calls lead from a new builder to this one, and each may follow those before it. -/
inductive History : List (Entry α) → Builder α → Prop where
  | start : History [] {}
  | call {entries : List (Entry α)} {builder : Builder α} (call : Call α)
      (before : History entries builder) (mayFollow : call.MayFollow entries) :
    History (entries ++ [⟨call, (call.run builder).1⟩]) (call.run builder).2

section Views

def names (builder : Builder α) : List RuleName :=
  builder.rules.map Rule.name

/-- The alternatives of the rule at a place; none if there is no rule. -/
def alternativesAt (builder : Builder α) (id : RuleId) : List (Alternative α) :=
  match builder.rules[id.index]? with
  | some rule => rule.alternatives
  | none => []

variable (builder : Builder α)

theorem getElem?_names (i : Nat) : builder.names[i]? = builder.rules[i]?.map Rule.name :=
  List.getElem?_map

theorem getElem?_names_of_findIdx? {sought : RuleName} {i : Nat}
    (found : builder.rules.findIdx? (·.name = sought) = some i) :
    builder.names[i]? = some sought := by
  obtain ⟨inside, same, -⟩ := List.findIdx?_eq_some_iff_getElem.1 found
  rw [getElem?_names, List.getElem?_eq_getElem inside]
  simpa using same

theorem findIdx?_eq_none_iff_notMem_names (sought : RuleName) :
    builder.rules.findIdx? (·.name = sought) = none ↔ sought ∉ builder.names := by
  rw [List.findIdx?_eq_none_iff]
  simp [names]

theorem isBare_iff (id : RuleId) : builder.isBare id = true ↔ builder.alternativesAt id = [] := by
  unfold isBare alternativesAt
  cases builder.rules[id.index]? <;> simp

@[simp]
theorem names_add (id : RuleId) (alternative : Alternative α) :
    (builder.add id alternative).names = builder.names := by
  apply List.ext_getElem?
  intro i
  rw [getElem?_names, getElem?_names, add, List.getElem?_modify]
  cases builder.rules[i]? with
  | none => rfl
  | some rule =>
    by_cases here : id.index = i <;> simp [here]

/-- An alternative is added at the place it is meant for, and nowhere else. -/
theorem alternativesAt_add {own : RuleId} (inside : own.index < builder.names.length)
    (alternative : Alternative α) (id : RuleId) :
    (builder.add own alternative).alternativesAt id =
      if own = id then builder.alternativesAt id ++ [alternative]
      else builder.alternativesAt id := by
  have inside : own.index < builder.rules.length := by simpa [names] using inside
  unfold alternativesAt add
  by_cases same : own = id
  · rw [if_pos same, ← same, List.getElem?_modify_eq, List.getElem?_eq_getElem inside]
    rfl
  · have index_ne : own.index ≠ id.index := fun equal => same (congrArg RuleId.mk equal)
    rw [if_neg same, List.getElem?_modify_ne _ _ index_ne]

/-- A name is found where it is, or else declared behind all others and without alternatives. -/
theorem rule_cases (sought : RuleName) :
    (∃ i, builder.names[i]? = some sought ∧ builder.rule sought = (⟨i⟩, builder)) ∨
    (sought ∉ builder.names ∧
      builder.rule sought = (⟨builder.rules.length⟩, ⟨builder.rules ++ [⟨sought, []⟩]⟩)) := by
  unfold rule
  cases found : builder.rules.findIdx? (·.name = sought) with
  | some i => exact .inl ⟨i, builder.getElem?_names_of_findIdx? found, rfl⟩
  | none => exact .inr ⟨(builder.findIdx?_eq_none_iff_notMem_names sought).1 found, rfl⟩

theorem names_rule (sought : RuleName) :
    (builder.rule sought).2.names = builder.names ∨
      sought ∉ builder.names ∧ (builder.rule sought).2.names = builder.names ++ [sought] := by
  obtain ⟨i, -, same⟩ | ⟨absent, new⟩ := builder.rule_cases sought
  · left
    rw [same]
  · right
    rw [new]
    exact ⟨absent, by simp [names]⟩

theorem getElem?_names_rule (sought : RuleName) :
    (builder.rule sought).2.names[(builder.rule sought).1.index]? = some sought := by
  obtain ⟨i, here, same⟩ | ⟨-, new⟩ := builder.rule_cases sought
  · rw [same]
    exact here
  · rw [new]
    simp [names]

/-- Declaring a rule adds no alternatives anywhere. -/
theorem alternativesAt_rule (sought : RuleName) (id : RuleId) :
    (builder.rule sought).2.alternativesAt id = builder.alternativesAt id := by
  obtain ⟨i, -, same⟩ | ⟨-, new⟩ := builder.rule_cases sought
  · rw [same]
  · rw [new]
    unfold alternativesAt
    rcases Nat.lt_trichotomy id.index builder.rules.length with inside | last | beyond
    · rw [List.getElem?_append_left inside]
    · simp [last]
    · rw [List.getElem?_eq_none (by simp; omega), List.getElem?_eq_none (by omega)]

theorem literal_fst (text : String) :
    (builder.literal text).1 = (builder.rule (.literal text)).1 := by
  unfold literal
  dsimp only
  split <;> rfl

theorem literal_snd (text : String) :
    (builder.literal text).2 =
      let (id, declared) := builder.rule (.literal text)
      if declared.isBare id then declared.addLiteral id text else declared := by
  unfold literal
  dsimp only
  split <;> rfl

theorem names_literal (text : String) :
    (builder.literal text).2.names = (builder.rule (.literal text)).2.names := by
  rw [literal_snd]
  dsimp only
  split
  · exact names_add _ _ _
  · rfl

theorem alternativesAt_literal (text : String) (id : RuleId) :
    (builder.literal text).2.alternativesAt id =
      if (builder.literal text).1 = id ∧ (builder.alternativesAt id).isEmpty then [.literal text]
      else builder.alternativesAt id := by
  have same := builder.alternativesAt_rule (.literal text)
  have here := builder.getElem?_names_rule (.literal text)
  rw [literal_fst, literal_snd, ← same]
  generalize builder.rule (.literal text) = declared at *
  obtain ⟨own, declared⟩ := declared
  dsimp only at *
  have inside : own.index < declared.names.length := (List.getElem?_eq_some_iff.1 here).1
  by_cases bare : declared.isBare own = true
  · have nothing := (isBare_iff declared own).1 bare
    rw [if_pos bare]
    refine (declared.alternativesAt_add inside (.literal text) id).trans ?_
    by_cases own_eq : own = id
    · subst own_eq
      simp [nothing]
    · rw [if_neg own_eq, if_neg fun ⟨same, _⟩ => own_eq same]
  · have something := mt (isBare_iff declared own).2 bare
    rw [if_neg bare, if_neg]
    rintro ⟨rfl, empty⟩
    exact something (List.isEmpty_iff.1 empty)

end Views

namespace Call

variable (call : Call α) (builder : Builder α)

theorem names_run_literal (text : String) :
    (run (.literal text) builder).2.names = (builder.rule (.literal text)).2.names :=
  builder.names_literal text

/-- The names stay at their places, and the only other one is the one that is asked for. -/
theorem names_run : (call.run builder).2.names = builder.names ∨
    ∃ sought, call.name? = some sought ∧ sought ∉ builder.names ∧
      (call.run builder).2.names = builder.names ++ [sought] := by
  cases call with
  | rule sought => exact (builder.names_rule sought).imp_right fun new => ⟨sought, rfl, new⟩
  | literal text =>
    rw [names_run_literal]
    exact (builder.names_rule (.literal text)).imp_right fun new => ⟨_, rfl, new⟩
  | addTerminal | addLiteral | addSequence => exact .inl (builder.names_add _ _)

theorem getElem?_names_run_of_eq_some {i : Nat} {sought : RuleName}
    (here : builder.names[i]? = some sought) : (call.run builder).2.names[i]? = some sought := by
  obtain same | ⟨_, -, -, more⟩ := call.names_run builder
  · rwa [same]
  · rwa [more, List.getElem?_append_left (List.getElem?_eq_some_iff.1 here).1]

theorem nodup_names_run (nodup : builder.names.Nodup) : (call.run builder).2.names.Nodup := by
  obtain same | ⟨sought, -, absent, more⟩ := call.names_run builder
  · rwa [same]
  · rw [more, ← List.concat_eq_append]
    exact nodup.concat absent

/-- The place that is returned for a name has this name. -/
theorem getElem?_names_run {sought : RuleName} (asked : call.name? = some sought) :
    ∃ id, (call.run builder).1 = some id ∧
      (call.run builder).2.names[id.index]? = some sought := by
  cases call with
  | rule =>
    cases asked
    exact ⟨_, rfl, builder.getElem?_names_rule sought⟩
  | literal text =>
    cases asked
    refine ⟨(builder.literal text).1, rfl, ?_⟩
    rw [names_run_literal, literal_fst]
    exact builder.getElem?_names_rule _
  | addTerminal | addLiteral | addSequence => cases asked

theorem returned_eq_none (silent : call.name? = none) : (call.run builder).1 = none := by
  cases call with
  | rule | literal => cases silent
  | addTerminal | addLiteral | addSequence => rfl

/-- A call extends the alternatives at each place as its entry says. -/
theorem alternativesAt_run (inside : ∀ id ∈ call.target?, id.index < builder.names.length)
    (id : RuleId) : (call.run builder).2.alternativesAt id =
      Entry.extend ⟨call, (call.run builder).1⟩ id (builder.alternativesAt id) := by
  cases call with
  | rule sought => exact builder.alternativesAt_rule sought id
  | literal text =>
    refine (builder.alternativesAt_literal text id).trans ?_
    simp [Entry.extend, run]
  | addTerminal own | addLiteral own | addSequence own =>
    exact builder.alternativesAt_add (inside own rfl) _ id

end Call

/-- The names are those that were asked for, each at the place that was returned for it, and the
alternatives are those that the ledger says. -/
structure Faithful (entries : List (Entry α)) (builder : Builder α) : Prop where
  names_nodup : builder.names.Nodup
  asked : ∀ sought ∈ builder.names, ∃ entry ∈ entries, entry.call.name? = some sought
  answered : ∀ entry ∈ entries, ∀ sought, entry.call.name? = some sought →
    ∃ id, entry.returned = some id ∧ builder.names[id.index]? = some sought
  silent : ∀ entry ∈ entries, entry.call.name? = none → entry.returned = none
  alternativesAt_eq : ∀ id, builder.alternativesAt id = added entries id

namespace Faithful

variable {entries : List (Entry α)} {builder : Builder α}

theorem inside (faithful : Faithful entries builder) {call : Call α}
    (mayFollow : call.MayFollow entries) :
    ∀ id ∈ call.target?, id.index < builder.names.length := by
  intro id isTarget
  obtain ⟨entry, isEntry, returned⟩ := mayFollow id isTarget
  cases asked : entry.call.name? with
  | none =>
    rw [faithful.silent entry isEntry asked] at returned
    cases returned
  | some sought =>
    obtain ⟨own, returnedToo, here⟩ := faithful.answered entry isEntry sought asked
    cases returned.symm.trans returnedToo
    exact (List.getElem?_eq_some_iff.1 here).1

theorem start : Faithful [] ({} : Builder α) where
  names_nodup := List.nodup_nil
  asked := nofun
  answered := nofun
  silent := nofun
  alternativesAt_eq _ := rfl

theorem step (faithful : Faithful entries builder) (call : Call α)
    (mayFollow : call.MayFollow entries) :
    Faithful (entries ++ [⟨call, (call.run builder).1⟩]) (call.run builder).2 where
  names_nodup := call.nodup_names_run builder faithful.names_nodup
  asked := by
    intro sought isName
    have old (isOld : sought ∈ builder.names) : ∃ entry ∈ entries ++ [⟨call, (call.run builder).1⟩],
        entry.call.name? = some sought := by
      obtain ⟨entry, isEntry, asked⟩ := faithful.asked sought isOld
      exact ⟨entry, List.mem_append_left _ isEntry, asked⟩
    obtain same | ⟨new, asked, -, more⟩ := call.names_run builder
    · exact old (same ▸ isName)
    · rw [more, List.mem_append, List.mem_singleton] at isName
      obtain isOld | rfl := isName
      · exact old isOld
      · exact ⟨_, List.mem_append_right _ (List.mem_singleton_self _), asked⟩
  answered := by
    simp only [List.forall_mem_append, List.forall_mem_singleton]
    refine ⟨?_, fun sought => call.getElem?_names_run builder⟩
    intro entry isEntry sought asked
    obtain ⟨id, returned, here⟩ := faithful.answered entry isEntry sought asked
    exact ⟨id, returned, call.getElem?_names_run_of_eq_some builder here⟩
  silent := by
    simp only [List.forall_mem_append, List.forall_mem_singleton]
    exact ⟨faithful.silent, call.returned_eq_none builder⟩
  alternativesAt_eq := by
    intro id
    rw [call.alternativesAt_run builder (faithful.inside mayFollow), faithful.alternativesAt_eq,
      added, added, List.foldl_append]
    rfl

end Faithful

theorem History.faithful {entries : List (Entry α)} {builder : Builder α}
    (history : History entries builder) : Faithful entries builder := by
  induction history with
  | start => exact .start
  | call call _ mayFollow inductionHypothesis => exact inductionHypothesis.step call mayFollow

section Ledger

theorem Entry.extend_of_subject?_ne {entry : Entry α} {id : RuleId}
    (other : entry.subject? ≠ some id) (before : List (Alternative α)) :
    entry.extend id before = before := by
  obtain ⟨call, returned⟩ := entry
  cases call with
  | rule => rfl
  | literal => exact if_neg fun ⟨same, _⟩ => other same
  | addTerminal | addLiteral | addSequence => exact if_neg fun same => other (congrArg some same)

theorem Entry.extend_ne_nil (entry : Entry α) (id : RuleId) {before : List (Alternative α)}
    (something : before ≠ []) : entry.extend id before ≠ [] := by
  obtain ⟨call, returned⟩ := entry
  cases call with
  | rule => exact something
  | literal | addTerminal | addLiteral | addSequence =>
    unfold extend
    dsimp only
    split <;> simp [something]

theorem foldl_extend_ne_nil (entries : List (Entry α)) (id : RuleId)
    {before : List (Alternative α)} (something : before ≠ []) :
    entries.foldl (fun before entry => entry.extend id before) before ≠ [] := by
  induction entries generalizing before with
  | nil => exact something
  | cons entry _ inductionHypothesis =>
    exact inductionHypothesis (entry.extend_ne_nil id something)

/-- Once punctuation was asked for, its rule has an alternative. -/
theorem added_ne_nil {entries : List (Entry α)} {entry : Entry α} (isEntry : entry ∈ entries)
    {text : String} (isLiteral : entry.call = .literal text) {id : RuleId}
    (returned : entry.returned = some id) : added entries id ≠ [] := by
  obtain ⟨before, later, rfl⟩ := List.append_of_mem isEntry
  unfold added
  rw [List.foldl_append, List.foldl_cons]
  apply foldl_extend_ne_nil
  generalize before.foldl _ [] = given
  cases given with
  | nil => simp [Entry.extend, isLiteral, returned]
  | cons => exact entry.extend_ne_nil id (List.cons_ne_nil _ _)

end Ledger

section Lookups

variable {builder : Builder α} (root : RuleId) {sought : RuleName} {id : RuleId} {rule : Rule α}

theorem name_eq_of_rule?_build (found : (builder.build root).rule? id = some rule) :
    builder.names[id.index]? = some rule.name := by
  unfold Grammar.rule? build at found
  rw [getElem?_names, found]
  rfl

theorem alternatives_eq_of_rule?_build (found : (builder.build root).rule? id = some rule) :
    rule.alternatives = builder.alternativesAt id := by
  unfold Grammar.rule? build at found
  unfold alternativesAt
  rw [found]

theorem exists_rule?_build (here : builder.names[id.index]? = some sought) :
    ∃ rule, (builder.build root).rule? id = some rule ∧ rule.name = sought := by
  rw [getElem?_names] at here
  exact Option.map_eq_some_iff.1 here

theorem ruleId?_build_eq_none_iff :
    (builder.build root).ruleId? sought = none ↔ sought ∉ builder.names :=
  Option.map_eq_none_iff.trans (builder.findIdx?_eq_none_iff_notMem_names sought)

theorem getElem?_names_of_ruleId?_build (found : (builder.build root).ruleId? sought = some id) :
    builder.names[id.index]? = some sought := by
  obtain ⟨i, isFirst, rfl⟩ := Option.map_eq_some_iff.1 found
  exact builder.getElem?_names_of_findIdx? isFirst

/-- The places of a name are one place, as no name stands at two. -/
theorem eq_of_getElem?_names (nodup : builder.names.Nodup) {other : RuleId}
    (here : builder.names[id.index]? = some sought)
    (there : builder.names[other.index]? = some sought) : other = id := by
  have inside := (List.getElem?_eq_some_iff.1 there).1
  exact congrArg RuleId.mk ((List.getElem?_inj inside nodup).1 (there.trans here.symm))

theorem ruleId?_build_eq_some (nodup : builder.names.Nodup)
    (here : builder.names[id.index]? = some sought) :
    (builder.build root).ruleId? sought = some id := by
  cases found : (builder.build root).ruleId? sought with
  | none => exact absurd (List.mem_of_getElem? here) ((ruleId?_build_eq_none_iff root).1 found)
  | some other =>
    have there := getElem?_names_of_ruleId?_build root found
    rw [eq_of_getElem?_names nodup here there]

/-- Asking for punctuation whose rule has an alternative changes nothing. -/
theorem run_literal_eq_self (nodup : builder.names.Nodup) {text : String}
    (here : builder.names[id.index]? = some (.literal text))
    (something : builder.alternativesAt id ≠ []) :
    (Call.literal text).run builder = (some id, builder) := by
  obtain ⟨i, there, same⟩ | ⟨absent, -⟩ := builder.rule_cases (.literal text)
  · obtain rfl : ⟨i⟩ = id := eq_of_getElem?_names nodup here there
    have full := mt (builder.isBare_iff _).1 something
    have unchanged : builder.literal text = (⟨i⟩, builder) := by
      unfold literal
      rw [same]
      exact if_neg full
    exact congrArg (Prod.map some _) unchanged
  · exact absurd (List.mem_of_getElem? here) absent

/-- A call leaves the name of a rule, and all of it if the call is not about it. -/
theorem rule?_build_run {call : Call α}
    (inside : ∀ id ∈ call.target?, id.index < builder.names.length)
    (found : (builder.build root).rule? id = some rule) :
    ∃ later, ((call.run builder).2.build root).rule? id = some later ∧ later.name = rule.name ∧
      (Entry.subject? ⟨call, (call.run builder).1⟩ ≠ some id → later = rule) := by
  have here := call.getElem?_names_run_of_eq_some builder (name_eq_of_rule?_build root found)
  obtain ⟨later, foundLater, sameName⟩ := exists_rule?_build root here
  refine ⟨later, foundLater, sameName, fun other => ?_⟩
  have sameAlternatives : later.alternatives = rule.alternatives := calc
    later.alternatives = (call.run builder).2.alternativesAt id :=
      alternatives_eq_of_rule?_build root foundLater
    _ = Entry.extend ⟨call, (call.run builder).1⟩ id (builder.alternativesAt id) :=
      call.alternativesAt_run builder inside id
    _ = builder.alternativesAt id := Entry.extend_of_subject?_ne other _
    _ = rule.alternatives := (alternatives_eq_of_rule?_build root found).symm
  cases later
  cases rule
  cases sameName
  cases sameAlternatives
  rfl

end Lookups

/-- What is built from a new builder, whatever the calls and their order, by calls that add to no
rule but to those they were given. No two rules have the same name. A place that was returned for a
name is the place of the rule with that name, and a name that was not asked for has no rule. Each
rule has the alternatives that the calls added to it in their order. A further call moves and
renames no rule, and gives alternatives to no rule but the one it is about. Asking for punctuation
changes nothing if the rule for it has an alternative, as it has once it was asked for. -/
theorem build_faithful {entries : List (Entry α)} {builder : Builder α}
    (history : History entries builder) (root : RuleId) :
    let grammar := builder.build root
    (grammar.rules.map Rule.name).Nodup ∧
    (∀ entry ∈ entries, ∀ sought, entry.call.name? = some sought →
      ∃ id rule, entry.returned = some id ∧ grammar.rule? id = some rule ∧ rule.name = sought ∧
        grammar.ruleId? sought = some id) ∧
    (∀ sought, (∀ entry ∈ entries, entry.call.name? ≠ some sought) →
      grammar.ruleId? sought = none) ∧
    (∀ id rule, grammar.rule? id = some rule → rule.alternatives = added entries id) ∧
    (∀ call : Call α, call.MayFollow entries → ∀ id rule, grammar.rule? id = some rule →
      ∃ later, ((call.run builder).2.build root).rule? id = some later ∧
        later.name = rule.name ∧
        (Entry.subject? ⟨call, (call.run builder).1⟩ ≠ some id → later = rule)) ∧
    (∀ text id rule, grammar.ruleId? (.literal text) = some id → grammar.rule? id = some rule →
      rule.alternatives ≠ [] → (Call.literal text).run builder = (some id, builder)) ∧
    (∀ entry ∈ entries, ∀ text, entry.call = .literal text →
      (Call.literal text).run builder = (entry.returned, builder)) := by
  intro grammar
  have faithful := history.faithful
  have nodup := faithful.names_nodup
  refine ⟨nodup, ?answered, ?unknown, ?ledger, ?frame, ?full, ?again⟩
  case answered =>
    intro entry isEntry sought asked
    obtain ⟨id, returned, here⟩ := faithful.answered entry isEntry sought asked
    obtain ⟨rule, found, sameName⟩ := exists_rule?_build root here
    exact ⟨id, rule, returned, found, sameName, ruleId?_build_eq_some root nodup here⟩
  case unknown =>
    intro sought notAsked
    apply (ruleId?_build_eq_none_iff root).2
    intro isName
    obtain ⟨entry, isEntry, asked⟩ := faithful.asked sought isName
    exact notAsked entry isEntry asked
  case ledger =>
    intro id rule found
    exact (alternatives_eq_of_rule?_build root found).trans (faithful.alternativesAt_eq id)
  case frame =>
    intro call mayFollow id rule found
    exact rule?_build_run root (faithful.inside mayFollow) found
  case full =>
    intro text id rule isId found something
    rw [alternatives_eq_of_rule?_build root found] at something
    exact run_literal_eq_self nodup (getElem?_names_of_ruleId?_build root isId) something
  case again =>
    intro entry isEntry text isLiteral
    obtain ⟨id, returned, here⟩ :=
      faithful.answered entry isEntry (.literal text) (by rw [isLiteral]; rfl)
    have something := added_ne_nil isEntry isLiteral returned
    rw [← faithful.alternativesAt_eq] at something
    rw [returned]
    exact run_literal_eq_self nodup here something

theorem build_faithful_bracket :
    let entries : List (Entry Nat) :=
      [⟨.rule .atom, some ⟨0⟩⟩, ⟨.literal "[", some ⟨1⟩⟩, ⟨.addSequence ⟨0⟩ [⟨1⟩, ⟨0⟩] 7, none⟩,
        ⟨.addLiteral ⟨1⟩ "(", none⟩, ⟨.literal "[", some ⟨1⟩⟩, ⟨.addTerminal ⟨0⟩ .number 8, none⟩]
    let builder : Builder Nat :=
      ⟨[⟨.atom, [.sequence [⟨1⟩, ⟨0⟩] 7, .terminal .number 8]⟩,
        ⟨.literal "[", [.literal "[", .literal "("]⟩]⟩
    History entries builder ∧
    (builder.build ⟨0⟩).ruleId? (.literal "[") = some ⟨1⟩ ∧
    (builder.build ⟨0⟩).ruleId? .term = none ∧
    (Call.literal "[").run builder = (some ⟨1⟩, builder) := by
  intro entries builder
  have history : History entries builder :=
    .call (.addTerminal ⟨0⟩ .number 8) (.call (.literal "[") (.call (.addLiteral ⟨1⟩ "(")
      (.call (.addSequence ⟨0⟩ [⟨1⟩, ⟨0⟩] 7) (.call (.literal "[") (.call (.rule .atom) .start
      (by decide)) (by decide)) (by decide)) (by decide)) (by decide)) (by decide)
  obtain ⟨-, answered, unknown, -, -, -, again⟩ := build_faithful history ⟨0⟩
  obtain ⟨id, rule, returned, -, -, isId⟩ :=
    answered ⟨.literal "[", some ⟨1⟩⟩ (by simp [entries]) _ rfl
  cases returned
  refine ⟨history, isId, unknown .term ?_, again ⟨.literal "[", some ⟨1⟩⟩ (by simp [entries]) _ rfl⟩
  decide

end DiceCalculator.Grammar.Builder
