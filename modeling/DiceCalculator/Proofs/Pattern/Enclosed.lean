import DiceCalculator.Pattern.Dialect
import DiceCalculator.Proofs.Pattern.NormalForm
import DiceCalculator.Proofs.Pattern.Scanning

/-!
# Texts in a group

A text is read in a group, so there is one layer more below those that its own
parentheses open. As long as each of its closing parentheses has an opening one
in the text, that layer stays as it was and the text means there what it means
by itself. The first closing parenthesis without one closes the group instead.
And the parenthesis that is written behind the text closes nothing at all if the
text ends in a comment.

This is said of every dialect in which a closing parenthesis is a symbol by
itself wherever it does not belong to a symbol or a comment that began before
it.
-/

namespace DiceCalculator.Pattern

/-- A repetition that is read asks for no more rounds than it permits. -/
def Symbol.Ordered : Symbol → Prop
  | .item pattern => pattern.Ordered
  | .repetition least most _ => ∀ bound ∈ most, least ≤ bound
  | .opening _ | .closing | .bar | .blank => True

/-- The pattern in a group that has to match at the start. -/
def enclosed (written : Pattern) : Pattern :=
  .seq (.assert .start) (.group false written)

/-- What there is to know of a dialect about parentheses. -/
structure Dialect.Lawful (dialect : Dialect) : Prop where
  /-- A symbol takes something of the text. -/
  shorter {mode later : dialect.Mode} {symbol : Symbol} {text rest : List Char} :
    dialect.lexeme mode text = some ((symbol, later), rest) →
      rest <:+ text ∧ rest.length < text.length
  /-- A closing parenthesis is a symbol by itself, and is the only one that closes. -/
  closing_iff {mode later : dialect.Mode} {text rest : List Char} :
    dialect.lexeme mode text = some ((.closing, later), rest) ↔ text = ')' :: rest ∧ later = mode
  /-- A circumflex accent stands for the start, unless a setting says otherwise. -/
  beginning (text : List Char) :
    dialect.lexeme dialect.start ('^' :: text) =
      some ((.item (.assert .start), dialect.start), text)
  /-- A question mark and a colon make a group that is not numbered, and set nothing. -/
  opening (text : List Char) :
    dialect.lexeme dialect.start ('(' :: '?' :: ':' :: text) =
      some ((.opening false, dialect.start), text)
  ordered {mode later : dialect.Mode} {symbol : Symbol} {text rest : List Char} :
    dialect.lexeme mode text = some ((symbol, later), rest) → symbol.Ordered
  /-- Each symbol ends before a closing parenthesis that stands behind the text, or cannot do
  without it, or takes it as part of a comment. -/
  steadyAt {mode : dialect.Mode} {text : List Char} :
    text ≠ [] → Scan.SteadyAt (dialect.lexeme mode) text

/-- The text is a pattern by itself, and a closing parenthesis behind it closes no group of it and
is not part of it either. -/
structure Dialect.Complete (dialect : Dialect) (text : String) : Prop where
  spelled : (dialect.spelled? text).isSome = true
  followed : dialect.spelled? (text ++ ")") = none

/-- A closing parenthesis of the text closes the group that the text is put into, since what comes
before it is complete. -/
def Dialect.ClosesEarly (dialect : Dialect) (text : String) : Prop :=
  ∃ before after, text = before ++ ")" ++ after ∧ dialect.Complete before

variable {dialect : Dialect}

/-- The symbols of the text lead from the one draft to the other. -/
inductive Reads (dialect : Dialect) :
    Draft dialect.Mode → List Char → Draft dialect.Mode → Prop where
  | done {draft} : Reads dialect draft [] draft
  | symbol {draft text symbol mode rest next later} :
      dialect.lexeme draft.mode text = some ((symbol, mode), rest) →
      dialect.take? draft symbol mode = some next →
      Reads dialect next rest later →
      Reads dialect draft text later

/-- The draft with more layers around all others. -/
def Draft.above {Mode : Type} (outermost : List (Layer × Mode)) (draft : Draft Mode) : Draft Mode :=
  { draft with outer := draft.outer ++ outermost }

theorem Draft.above_nil {Mode : Type} (draft : Draft Mode) : draft.above [] = draft := by
  rw [Draft.above, List.append_nil]

variable {draft next later whole : Draft dialect.Mode} {symbol : Symbol} {mode : dialect.Mode}
  {text rest : List Char} {outermost : List (Layer × dialect.Mode)}

section Steps

/-- The layers below take no part, unless a parenthesis closes the last layer above them. -/
theorem take?_above :
    dialect.take? (draft.above outermost) symbol mode =
      if symbol = .closing ∧ draft.outer = [] then
        dialect.take? { draft with outer := outermost } .closing mode
      else (dialect.take? draft symbol mode).map (·.above outermost) := by
  obtain ⟨before, ⟨numbered, branches, items⟩, outer⟩ := draft
  cases symbol with
  | closing => cases outer <;> simp [Dialect.take?, Draft.above]
  | repetition =>
    rcases items with _ | ⟨_ | _, _⟩ <;> simp [Dialect.take?, Draft.above]
  | _ => simp [Dialect.take?, Draft.above]

theorem take?_above_of_some (taken : dialect.take? draft symbol mode = some next) :
    dialect.take? (draft.above outermost) symbol mode = some (next.above outermost) := by
  rw [take?_above, if_neg, taken, Option.map_some]
  rintro ⟨rfl, closed⟩
  simp only [Dialect.take?, closed, reduceCtorEq] at taken

end Steps

namespace Dialect.Lawful

variable (lawful : dialect.Lawful)

include lawful

theorem ne_nil (found : dialect.lexeme draft.mode text = some ((symbol, mode), rest)) :
    text ≠ [] := by
  rintro rfl
  exact absurd (lawful.shorter found).2 (Nat.not_lt_zero _)

theorem read?_of_lexeme (found : dialect.lexeme draft.mode text = some ((symbol, mode), rest)) :
    dialect.read? draft text =
      (dialect.take? draft symbol mode).bind fun next => dialect.read? next rest := by
  rw [Dialect.read?, if_neg (lawful.ne_nil found), found]
  exact dif_pos (lawful.shorter found).2

theorem read?_eq_some_iff :
    dialect.read? draft text = some later ↔ Reads dialect draft text later := by
  constructor
  · intro read
    induction draft, text using Dialect.read?.induct dialect with
    | case1 draft =>
      rw [Dialect.read?, if_pos rfl] at read
      cases read
      exact .done
    | case2 draft text text_ne refused =>
      rw [Dialect.read?, if_neg text_ne, refused] at read
      cases read
    | case3 draft text _ symbol mode rest found _ inductionHypothesis =>
      rw [lawful.read?_of_lexeme found] at read
      obtain ⟨next, taken, others⟩ := Option.bind_eq_some_iff.1 read
      exact .symbol found taken (inductionHypothesis next others)
    | case4 draft text _ symbol mode rest found notShorter =>
      exact absurd (lawful.shorter found).2 notShorter
  · intro reads
    induction reads with
    | done => rw [Dialect.read?, if_pos rfl]
    | symbol found taken _ inductionHypothesis =>
      rw [lawful.read?_of_lexeme found, taken]
      exact inductionHypothesis

end Dialect.Lawful

namespace Reads

theorem above (reads : Reads dialect draft text later) :
    Reads dialect (draft.above outermost) text (later.above outermost) := by
  induction reads with
  | done => exact .done
  | symbol found taken _ inductionHypothesis =>
    exact .symbol found (take?_above_of_some taken) inductionHypothesis

end Reads

section Closing

variable (lawful : dialect.Lawful) (behind : List Char)

include lawful

theorem read?_closing :
    dialect.read? draft (')' :: behind) =
      (dialect.take? draft .closing draft.mode).bind fun next => dialect.read? next behind :=
  lawful.read?_of_lexeme (lawful.closing_iff.2 ⟨rfl, rfl⟩)

theorem read?_closing_of_closed (closed : draft.outer = []) :
    dialect.read? draft (')' :: behind) = none := by
  rw [read?_closing lawful, Dialect.take?, closed, Option.bind_none]

/-- Either reading comes to the closing parenthesis behind the text as it comes to the end of the
text, or the text ends in a comment, which goes on. -/
theorem Reads.followed (reads : Reads dialect draft text later) :
    (∀ outermost behind, dialect.read? (draft.above outermost) (text ++ ')' :: behind) =
      dialect.read? (later.above outermost) (')' :: behind)) ∨
    dialect.read? draft (text ++ [')']) = some later := by
  induction reads with
  | done => exact .inl fun _ _ => rfl
  | @symbol draft text symbol mode rest next later found taken reads inductionHypothesis =>
    obtain ⟨_, _, alone, followed⟩ | ⟨alone, -⟩ := lawful.steadyAt (lawful.ne_nil found)
    · cases alone.symm.trans found
      refine inductionHypothesis.imp (fun others outermost behind => ?_) fun others => ?_
      · have step : dialect.read? (draft.above outermost) (text ++ ')' :: behind) =
            (dialect.take? (draft.above outermost) symbol mode).bind fun next =>
              dialect.read? next (rest ++ ')' :: behind) :=
          lawful.read?_of_lexeme (followed behind)
        rw [step, take?_above_of_some taken]
        exact others outermost behind
      · rw [lawful.read?_of_lexeme (followed []), taken]
        exact others
    · obtain ⟨rfl, followed⟩ := alone _ found
      right
      rw [lawful.read?_of_lexeme followed, taken]
      exact lawful.read?_eq_some_iff.2 reads

/-- What is read above a layer is read without it, or some part of it is complete and the
parenthesis behind that closes the last layer above. -/
theorem Reads.of_above {base : Layer × dialect.Mode} {last : Draft dialect.Mode}
    (reads : Reads dialect whole text last) (starts : whole = draft.above [base]) :
    (∃ later, Reads dialect draft text later ∧ last = later.above [base]) ∨
    ∃ before behind complete, text = before ++ ')' :: behind ∧
      Reads dialect draft before complete ∧ complete.outer = [] ∧
      dialect.read? draft (before ++ [')']) = none := by
  induction reads generalizing draft with
  | done => exact .inl ⟨draft, .done, starts⟩
  | @symbol whole text symbol mode rest next last found taken reads inductionHypothesis =>
    subst starts
    rw [take?_above] at taken
    split at taken
    · rename_i closes
      obtain ⟨rfl, closed⟩ := closes
      obtain ⟨rfl, -⟩ := lawful.closing_iff.1 found
      exact .inr ⟨[], rest, draft, rfl, .done, closed, read?_closing_of_closed lawful [] closed⟩
    · obtain ⟨next, takenToo, rfl⟩ := Option.map_eq_some_iff.1 taken
      obtain ⟨later, others, rfl⟩ | ⟨before, behind, complete, rfl, others, closed, refused⟩ :=
        inductionHypothesis rfl
      · exact .inl ⟨later, .symbol found takenToo others, rfl⟩
      · obtain ⟨⟨front, rfl⟩, shorter⟩ := lawful.shorter found
        have front_ne : front ++ before ≠ [] := by
          rintro nothing
          rw [(List.append_eq_nil_iff.1 nothing).1] at shorter
          exact absurd shorter (Nat.lt_irrefl _)
        rw [← List.append_assoc] at found ⊢
        -- the first symbol has nothing to do with the parenthesis that comes later
        obtain ⟨a, left, alone, followed⟩ | ⟨-, covers⟩ := lawful.steadyAt front_ne
        · obtain ⟨rfl, same⟩ := Prod.mk.inj (Option.some.inj ((followed behind).symm.trans found))
          rw [List.append_cancel_right same] at alone followed
          have step : dialect.read? draft (front ++ before ++ [')']) =
              (dialect.take? draft symbol mode).bind fun next =>
                dialect.read? next (before ++ [')']) :=
            lawful.read?_of_lexeme (followed [])
          refine .inr ⟨_, behind, complete, rfl, .symbol alone takenToo others, closed, ?_⟩
          rw [step, takenToo]
          exact refused
        · have inside := (covers behind _ found).length_le
          simp only [List.length_append, List.length_cons] at inside
          omega

end Closing

section Order

structure Layer.Ordered (layer : Layer) : Prop where
  branches : ∀ pattern ∈ layer.branches, pattern.Ordered
  items : ∀ item ∈ layer.items, item.Ordered

structure Draft.Ordered {Mode : Type} (draft : Draft Mode) : Prop where
  layer : draft.layer.Ordered
  outer : ∀ around ∈ draft.outer, around.1.Ordered

variable {layer : Layer}

theorem Layer.Ordered.branch (ordered : layer.Ordered) : layer.branch.Ordered :=
  ordered_inTurn.2 fun item inside => ordered.items item (List.mem_reverse.1 inside)

theorem Layer.Ordered.pattern (ordered : layer.Ordered) : layer.pattern.Ordered := by
  have all : ∀ pattern ∈ (layer.branch :: layer.branches).reverse, pattern.Ordered := by
    intro pattern inside
    exact List.forall_mem_cons.2 ⟨ordered.branch, ordered.branches⟩ pattern
      (List.mem_reverse.1 inside)
  unfold Layer.pattern
  split
  · trivial
  · rename_i first others row
    rw [row] at all
    exact ordered_anyOf.2 all

theorem Layer.Ordered.add (ordered : layer.Ordered) {item : Pattern} (itemOrdered : item.Ordered) :
    (layer.add item).Ordered :=
  ⟨ordered.branches, List.forall_mem_cons.2 ⟨itemOrdered, ordered.items⟩⟩

theorem Draft.Ordered.take? (ordered : draft.Ordered) (symbolOrdered : symbol.Ordered)
    (taken : dialect.take? draft symbol mode = some next) : next.Ordered := by
  obtain ⟨before, layer, outer⟩ := draft
  obtain ⟨layerOrdered, outerOrdered⟩ := ordered
  cases symbol with
  | item pattern =>
    cases taken
    exact ⟨layerOrdered.add symbolOrdered, outerOrdered⟩
  | opening numbered =>
    cases taken
    exact ⟨⟨nofun, nofun⟩, List.forall_mem_cons.2 ⟨layerOrdered, outerOrdered⟩⟩
  | closing =>
    cases outer with
    | nil => cases taken
    | cons around outer =>
      cases taken
      obtain ⟨aroundOrdered, outerOrdered⟩ := List.forall_mem_cons.1 outerOrdered
      exact ⟨aroundOrdered.add layerOrdered.pattern, outerOrdered⟩
  | bar =>
    cases taken
    exact ⟨⟨List.forall_mem_cons.2 ⟨layerOrdered.branch, layerOrdered.branches⟩, nofun⟩,
      outerOrdered⟩
  | repetition least most greedy =>
    obtain ⟨numbered, branches, items⟩ := layer
    simp only [Dialect.take?] at taken
    split at taken
    · cases taken
    · cases taken
    · cases taken
      obtain ⟨branchesOrdered, itemsOrdered⟩ := layerOrdered
      obtain ⟨itemOrdered, itemsOrdered⟩ := List.forall_mem_cons.1 itemsOrdered
      exact ⟨⟨branchesOrdered, List.forall_mem_cons.2 ⟨⟨symbolOrdered, itemOrdered⟩, itemsOrdered⟩⟩,
        outerOrdered⟩
  | blank =>
    cases taken
    exact ⟨layerOrdered, outerOrdered⟩

theorem Reads.ordered (lawful : dialect.Lawful) (reads : Reads dialect draft text later)
    (ordered : draft.Ordered) : later.Ordered := by
  induction reads with
  | done => exact ordered
  | symbol found taken _ inductionHypothesis =>
    exact inductionHypothesis (ordered.take? (lawful.ordered found) taken)

end Order

section Ground

/-- The layer around all others. -/
def Draft.ground {Mode : Type} (draft : Draft Mode) : Layer :=
  (draft.outer.map Prod.fst).getLastD draft.layer

theorem numbered_ground_of_take? (taken : dialect.take? draft symbol mode = some next) :
    next.ground.numbered = draft.ground.numbered := by
  obtain ⟨before, ⟨numbered, branches, items⟩, outer⟩ := draft
  cases symbol with
  | closing =>
    cases outer with
    | nil => cases taken
    | cons around outer =>
      cases taken
      cases outer <;> rfl
  | repetition =>
    simp only [Dialect.take?] at taken
    split at taken
    · cases taken
    · cases taken
    · cases taken
      cases outer <;> rfl
  | item | opening | bar | blank =>
    cases taken
    cases outer <;> rfl

theorem Reads.numbered_ground (reads : Reads dialect draft text later) :
    later.ground.numbered = draft.ground.numbered := by
  induction reads with
  | done => rfl
  | symbol _ taken _ inductionHypothesis =>
    exact inductionHypothesis.trans (numbered_ground_of_take? taken)

end Ground

section Spelling

variable {text : String} {written : Pattern}

theorem finish?_above (nonempty : outermost ≠ []) :
    dialect.finish? (draft.above outermost) = none := by
  refine if_neg fun closed => nonempty ?_
  exact (List.append_eq_nil_iff.1 (List.isEmpty_iff.1 closed)).2

theorem toList_around (before after : String) :
    (before ++ ")" ++ after).toList = before.toList ++ ')' :: after.toList := by
  rw [String.toList_append, String.toList_append, List.append_assoc]
  rfl

theorem spelled?_followed (text : String) : dialect.spelled? (text ++ ")") =
    (dialect.read? dialect.outset (text.toList ++ [')'])).bind dialect.finish? := by
  rw [Dialect.spelled?, String.toList_append]
  rfl

variable (lawful : dialect.Lawful)

include lawful

theorem spelled?_eq_some_iff : dialect.spelled? text = some written ↔
    ∃ draft, Reads dialect dialect.outset text.toList draft ∧ draft.outer = [] ∧
      draft.layer.pattern = written := by
  simp only [Dialect.spelled?, Option.bind_eq_some_iff, lawful.read?_eq_some_iff, Dialect.finish?,
    List.isEmpty_iff, Option.ite_none_right_eq_some, Option.some.injEq]

/-- What is read has its repetitions in order. -/
theorem ordered_of_spelled? (spells : dialect.spelled? text = some written) : written.Ordered := by
  obtain ⟨draft, reads, -, rfl⟩ := (spelled?_eq_some_iff lawful).1 spells
  exact (reads.ordered lawful ⟨⟨nofun, nofun⟩, nofun⟩).layer.pattern

/-- The group around a text puts one layer around what is read of the text. -/
theorem spelled?_in_group (text : String) : dialect.spelled? ("^(?:" ++ text ++ ")") =
    (dialect.read? (dialect.outset.above [(({} : Layer).add (.assert .start), dialect.start)])
      (text.toList ++ [')'])).bind dialect.finish? := by
  have whole : ("^(?:" ++ text ++ ")").toList =
      '^' :: '(' :: '?' :: ':' :: (text.toList ++ [')']) := by
    simp only [String.toList_append, List.cons_append, List.nil_append, String.reduceToList]
  rw [Dialect.spelled?, whole, lawful.read?_of_lexeme (lawful.beginning _), Dialect.take?,
    Option.bind_some, lawful.read?_of_lexeme (lawful.opening _), Dialect.take?, Option.bind_some]
  rfl

/-- Reading a complete text comes to the parenthesis behind it in the same way wherever the text
stands. -/
theorem Dialect.Complete.exists_reads (complete : dialect.Complete text) :
    ∃ draft, Reads dialect dialect.outset text.toList draft ∧ draft.outer = [] ∧
      dialect.spelled? text = some draft.layer.pattern ∧
      ∀ outermost behind,
        dialect.read? (dialect.outset.above outermost) (text.toList ++ ')' :: behind) =
          dialect.read? (draft.above outermost) (')' :: behind) := by
  obtain ⟨written, spells⟩ := Option.isSome_iff_exists.1 complete.spelled
  obtain ⟨draft, reads, closed, rfl⟩ := (spelled?_eq_some_iff lawful).1 spells
  refine ⟨draft, reads, closed, spells, (reads.followed lawful).resolve_right fun swallowed => ?_⟩
  have refused := complete.followed
  rw [spelled?_followed, swallowed, Option.bind_some, Dialect.finish?, closed] at refused
  cases refused

/-- A complete text means in the group what it means by itself. -/
theorem Dialect.Complete.spelled?_in_group (complete : dialect.Complete text)
    (spells : dialect.spelled? text = some written) :
    dialect.spelled? ("^(?:" ++ text ++ ")") = some (enclosed written) := by
  obtain ⟨draft, reads, closed, spellsToo, followed⟩ := complete.exists_reads lawful
  obtain rfl := Option.some.inj (spellsToo.symm.trans spells)
  have plain : draft.layer.numbered = false := by
    have ground := reads.numbered_ground
    rwa [Draft.ground, closed] at ground
  rw [Pattern.spelled?_in_group lawful, followed, read?_closing lawful, Dialect.take?]
  simp only [Draft.above, closed, List.nil_append, Option.bind_some, plain]
  rw [Dialect.read?, if_pos rfl]
  rfl

/-- If the closing parenthesis behind a text belongs to the text, the group stays open. -/
theorem spelled?_in_group_eq_none (swallows : (dialect.spelled? (text ++ ")")).isSome = true) :
    dialect.spelled? ("^(?:" ++ text ++ ")") = none := by
  rw [spelled?_followed] at swallows
  obtain ⟨written, spells⟩ := Option.isSome_iff_exists.1 swallows
  obtain ⟨draft, read, -⟩ := Option.bind_eq_some_iff.1 spells
  have reads := lawful.read?_eq_some_iff.1 read
  rw [spelled?_in_group lawful, lawful.read?_eq_some_iff.2 reads.above, Option.bind_some,
    finish?_above (List.cons_ne_nil _ _)]

/-- A text that is a pattern in the group, but not by itself, closes the group early. -/
theorem closesEarly_of_spelled?_in_group
    (spelled : (dialect.spelled? ("^(?:" ++ text ++ ")")).isSome = true)
    (alone : dialect.spelled? text = none) : dialect.ClosesEarly text := by
  rw [spelled?_in_group lawful] at spelled
  obtain ⟨written, spells⟩ := Option.isSome_iff_exists.1 spelled
  obtain ⟨last, read, finished⟩ := Option.bind_eq_some_iff.1 spells
  have closed : last.outer = [] := by
    rw [Dialect.finish?, Option.ite_none_right_eq_some, List.isEmpty_iff] at finished
    exact finished.1
  obtain ⟨later, -, rfl⟩ | ⟨before, behind, complete, whole, reads, completeClosed, refused⟩ :=
    (lawful.read?_eq_some_iff.1 read).of_above lawful rfl
  · exact absurd (List.append_eq_nil_iff.1 closed).2 (List.cons_ne_nil _ _)
  · have spelledBefore : dialect.spelled? (String.ofList before) = some complete.layer.pattern :=
      (spelled?_eq_some_iff lawful).2 ⟨complete, by rwa [String.toList_ofList], completeClosed, rfl⟩
    obtain rfl | ⟨after, c, rfl⟩ := List.eq_nil_or_concat behind
    · -- it is the parenthesis of the group that closes the group
      rw [← List.append_cancel_right whole, String.ofList_toList, alone] at spelledBefore
      cases spelledBefore
    · refine ⟨String.ofList before, String.ofList after, ?_, ?_, ?_⟩
      · rw [List.concat_eq_append, ← List.cons_append, ← List.append_assoc] at whole
        rw [← String.toList_inj, (List.append_inj' whole rfl).1, toList_around,
          String.toList_ofList, String.toList_ofList]
      · rw [spelledBefore, Option.isSome_some]
      · rw [spelled?_followed, String.toList_ofList, refused, Option.bind_none]

/-- A text that closes the group early is no pattern by itself. -/
theorem Dialect.ClosesEarly.spelled?_eq_none (closes : dialect.ClosesEarly text) :
    dialect.spelled? text = none := by
  obtain ⟨before, after, rfl, complete⟩ := closes
  obtain ⟨draft, -, closed, -, followed⟩ := complete.exists_reads lawful
  have alone := followed [] after.toList
  rw [Draft.above_nil, Draft.above_nil, read?_closing_of_closed lawful _ closed] at alone
  rw [Dialect.spelled?, toList_around, alone, Option.bind_none]

end Spelling

end DiceCalculator.Pattern
