import DiceCalculator.Pattern.Normal
import DiceCalculator.Proofs.Pattern.Words
import Mathlib.Data.Char
import Mathlib.Data.List.Infix

/-!
# What the normal form spans

A pattern and its normal form lead from the same places to the same places: the
normal form may prefer another way, but it has no way of its own and loses none.
It is said first of rows of items, which are gone through one after the other,
and of branches, of which one is chosen.

The bounds of a repetition have to be in order. A repetition that asks for more
rounds than it permits goes through the rounds it asks for, and its normal form
does not.
-/

namespace DiceCalculator.Pattern

/-- No repetition asks for more rounds than it permits. -/
def Ordered : Pattern → Prop
  | .empty | .assert _ | .char _ | .any | .one _ => True
  | .seq first second => first.Ordered ∧ second.Ordered
  | .alt first second => first.Ordered ∧ second.Ordered
  | .group _ body => body.Ordered
  | .many least most _ body => (∀ bound ∈ most, least ≤ bound) ∧ body.Ordered

/-- The branches are made of ordered items. -/
def AllOrdered (branches : List (List Pattern)) : Prop :=
  ∀ items ∈ branches, ∀ item ∈ items, item.Ordered

/-- Some way through one of the branches leads from the one place to the other. -/
def SpansSome (branches : List (List Pattern)) (here there : Cursor) : Prop :=
  ∃ items ∈ branches, Spans (inTurn items) here there

/-- One character that passes the test leads from the one place to the other. -/
def TakesOne (test : Char → Prop) (here there : Cursor) : Prop :=
  ∃ c rest, here.left = c :: rest ∧ test c ∧ there = here.advance c rest

variable {here there : Cursor} {first second body : Pattern} {items : List Pattern}
  {branches : List (List Pattern)} {least : Nat} {most : Option Nat} {greedy : Bool}

section Ways

theorem TakesOne.congr {test other : Char → Prop} (same : ∀ c, test c ↔ other c) :
    TakesOne test here there ↔ TakesOne other here there := by
  simp only [TakesOne, same]

@[simp]
theorem spans_empty : Spans .empty here there ↔ there = here := by
  constructor
  · intro spans
    cases spans
    rfl
  · rintro rfl
    exact .empty

@[simp]
theorem spans_seq :
    Spans (.seq first second) here there ↔
      ∃ middle, Spans first here middle ∧ Spans second middle there := by
  constructor
  · intro spans
    cases spans with
    | seq before after => exact ⟨_, before, after⟩
  · rintro ⟨middle, before, after⟩
    exact .seq before after

@[simp]
theorem spans_alt :
    Spans (.alt first second) here there ↔ Spans first here there ∨ Spans second here there := by
  constructor
  · intro spans
    cases spans with
    | altFirst taken => exact .inl taken
    | altSecond taken => exact .inr taken
  · rintro (taken | taken)
    · exact .altFirst taken
    · exact .altSecond taken

@[simp]
theorem spans_group {numbered : Bool} :
    Spans (.group numbered body) here there ↔ Spans body here there := by
  constructor
  · intro spans
    cases spans with
    | group taken => exact taken
  · exact .group

theorem spans_char {d : Char} : Spans (.char d) here there ↔ TakesOne (· = d) here there := by
  constructor
  · intro spans
    cases spans with
    | char left => exact ⟨_, _, left, rfl, rfl⟩
  · rintro ⟨c, rest, left, rfl, rfl⟩
    exact .char left

theorem spans_any : Spans .any here there ↔ TakesOne (· ≠ '\n') here there := by
  constructor
  · intro spans
    cases spans with
    | any left inLine => exact ⟨_, _, left, inLine, rfl⟩
  · rintro ⟨c, rest, left, inLine, rfl⟩
    exact .any left inLine

theorem spans_one {set : CharSet} :
    Spans (.one set) here there ↔ TakesOne (set.contains · = true) here there := by
  constructor
  · intro spans
    cases spans with
    | one left inside => exact ⟨_, _, left, inside, rfl⟩
  · rintro ⟨c, rest, left, inside, rfl⟩
    exact .one left inside

theorem spans_many :
    Spans (.many least most greedy body) here there ↔
      least = 0 ∧ there = here ∨
        (0 < least ∨ most ≠ some 0) ∧ ∃ middle, Spans body here middle ∧
          Spans (.many (least - 1) (most.map (· - 1)) greedy body) middle there := by
  constructor
  · intro spans
    cases spans with
    | enough => exact .inl ⟨rfl, rfl⟩
    | round permitted first others => exact .inr ⟨permitted, _, first, others⟩
  · rintro (⟨rfl, rfl⟩ | ⟨permitted, middle, first, others⟩)
    · exact .enough
    · exact .round permitted first others

theorem Spans.many_mono {other : Pattern}
    (each : ∀ {here there}, Spans body here there → Spans other here there)
    (spans : Spans (.many least most greedy body) here there) :
    Spans (.many least most greedy other) here there := by
  generalize shape : many least most greedy body = pattern at spans
  induction spans generalizing least most with
  | enough =>
    cases shape
    exact .enough
  | round permitted first _ _ inductionHypothesis =>
    cases shape
    exact .round permitted (each first) (inductionHypothesis rfl)
  | _ => cases shape

end Ways

section Rows

theorem spans_inTurn_cons :
    Spans (inTurn (first :: items)) here there ↔
      ∃ middle, Spans first here middle ∧ Spans (inTurn items) middle there := by
  cases items <;> simp [inTurn]

theorem spans_inTurn_append {others : List Pattern} :
    Spans (inTurn (items ++ others)) here there ↔
      ∃ middle, Spans (inTurn items) here middle ∧ Spans (inTurn others) middle there := by
  induction items generalizing here with
  | nil => simp [inTurn]
  | cons first items inductionHypothesis =>
    simp only [List.cons_append, spans_inTurn_cons, inductionHypothesis]
    constructor
    · rintro ⟨middle, taken, later, others, rest⟩
      exact ⟨later, ⟨middle, taken, others⟩, rest⟩
    · rintro ⟨later, ⟨middle, taken, others⟩, rest⟩
      exact ⟨middle, taken, later, others, rest⟩

theorem spans_items (pattern : Pattern) :
    Spans (inTurn pattern.items) here there ↔ Spans pattern here there := by
  induction pattern generalizing here there with
  | seq first second spansFirst spansSecond =>
    simp only [items, spans_inTurn_append, spansFirst, spansSecond, spans_seq]
  | _ => exact Iff.rfl

theorem spansSome_append {others : List (List Pattern)} :
    SpansSome (branches ++ others) here there ↔
      SpansSome branches here there ∨ SpansSome others here there := by
  simp only [SpansSome, List.mem_append, or_and_right, exists_or]

theorem spansSome_single : SpansSome [items] here there ↔ Spans (inTurn items) here there := by
  simp [SpansSome]

theorem spansSome_branches (pattern : Pattern) :
    SpansSome pattern.branches here there ↔ Spans pattern here there := by
  induction pattern with
  | alt first second spansFirst spansSecond =>
    rw [Pattern.branches, spansSome_append, spansFirst, spansSecond, spans_alt]
  | _ => exact spansSome_single.trans (spans_items _)

theorem spansSome_flatMap (split : List (List Pattern)) (part : List Pattern → List Pattern) :
    SpansSome (split.flatMap fun items => (inTurn (part items)).branches) here there ↔
      ∃ items ∈ split, Spans (inTurn (part items)) here there := by
  simp only [← spansSome_branches]
  constructor
  · rintro ⟨branch, member, spans⟩
    obtain ⟨items, inside, among⟩ := List.mem_flatMap.1 member
    exact ⟨items, inside, branch, among, spans⟩
  · rintro ⟨items, inside, branch, among, spans⟩
    exact ⟨branch, List.mem_flatMap.2 ⟨items, inside, among⟩, spans⟩

theorem spans_anyOf {patterns : List Pattern} :
    Spans (anyOf first patterns) here there ↔
      ∃ pattern ∈ first :: patterns, Spans pattern here there := by
  induction patterns generalizing first with
  | nil => simp [anyOf]
  | cons next patterns inductionHypothesis =>
    simp only [anyOf, spans_alt, inductionHypothesis, List.mem_cons, exists_eq_or_imp]

end Rows

section Uniting

theorem eq_iff_exists_range {c d : Char} :
    c = d ↔ ∃ range ∈ [(d, d)], range.1 ≤ c ∧ c ≤ range.2 := by
  simp only [List.mem_singleton, exists_eq_left]
  rw [le_antisymm_iff, and_comm]

theorem spans_ofSet {set : CharSet} :
    Spans (ofSet set) here there ↔ Spans (.one set) here there := by
  have normal : Spans (.one set.normal) here there ↔ Spans (.one set) here there := by
    simp only [spans_one, CharSet.contains_normal]
  unfold ofSet
  split
  · rename_i first last ranges
    split
    · rename_i single
      subst single
      rw [← normal, spans_char, spans_one]
      refine TakesOne.congr fun c => ?_
      -- the normal spelling is not negated, so the one range says it all
      have spelled : set.normal = ⟨[(first, first)], false⟩ := by
        rw [← ranges]
        rfl
      rw [spelled, CharSet.contains_ranges, eq_iff_exists_range]
    · exact normal
  · exact normal

theorem spans_of_ranges? {ranges : List (Char × Char)} (found : ranges? items = some ranges) :
    Spans (inTurn items) here there ↔
      TakesOne (fun c => ∃ range ∈ ranges, range.1 ≤ c ∧ c ≤ range.2) here there := by
  unfold ranges? at found
  split at found
  · cases found
    rw [inTurn, spans_char]
    exact TakesOne.congr fun c => eq_iff_exists_range
  · rename_i set
    cases found
    rw [inTurn, spans_one]
    refine TakesOne.congr fun c => ?_
    rw [← CharSet.contains_normal, ← CharSet.contains_ranges]
    rfl
  · cases found

theorem spansSome_of_ranges? {ranges : List (List (Char × Char))}
    (found : branches.mapM ranges? = some ranges) :
    SpansSome branches here there ↔ Spans (.one ⟨ranges.flatten, false⟩) here there := by
  rw [spans_one]
  simp only [CharSet.contains_ranges]
  induction branches generalizing ranges with
  | nil =>
    cases found
    simp [SpansSome, TakesOne]
  | cons items branches inductionHypothesis =>
    simp only [List.mapM_cons, bind, pure, Option.bind_eq_some_iff] at found
    obtain ⟨first, one, others, rest, found⟩ := found
    cases found
    rw [← List.singleton_append, spansSome_append, spansSome_single, spans_of_ranges? one,
      inductionHypothesis rest]
    simp only [TakesOne, List.flatten_cons, List.mem_append, or_and_right, exists_or,
      and_or_left]

theorem spans_choice : Spans (choice branches) here there ↔ SpansSome branches here there := by
  unfold choice
  split
  · rename_i ranges found
    rw [spans_ofSet, spansSome_of_ranges? found]
  · rename_i none empty
    rw [List.map_eq_nil_iff.1 empty] at none
    cases none
  · rename_i first rest rows
    rw [spans_anyOf, ← rows]
    simp [SpansSome]

theorem alike_isPrefix (items others : List Pattern) :
    alike items others <+: items ∧ alike items others <+: others := by
  fun_induction alike items others with
  | case1 first rest second others same inductionHypothesis =>
    obtain ⟨rfl, -⟩ := by simpa using same
    simpa [List.prefix_cons_inj] using inductionHypothesis
  | case2 | case3 => simp

theorem foldl_alike_isPrefix (items : List Pattern) (branches : List (List Pattern)) :
    branches.foldl alike items <+: items ∧
      ∀ branch ∈ branches, branches.foldl alike items <+: branch := by
  induction branches generalizing items with
  | nil => simp
  | cons branch branches inductionHypothesis =>
    obtain ⟨ofFirst, ofOthers⟩ := inductionHypothesis (alike items branch)
    have both := alike_isPrefix items branch
    exact ⟨ofFirst.trans both.1, List.forall_mem_cons.2 ⟨ofFirst.trans both.2, ofOthers⟩⟩

theorem beginning_isPrefix : ∀ branch ∈ branches, beginning branches <+: branch := by
  intro branch inside
  unfold beginning
  split
  · exact List.nil_prefix
  · obtain ⟨first, others, rfl⟩ := List.exists_cons_of_ne_nil (List.ne_nil_of_mem inside)
    have shared := foldl_alike_isPrefix first others
    exact List.forall_mem_cons.2 ⟨shared.1, shared.2⟩ branch inside

/-- What the branches begin with alike can be gone through before one of them is chosen. -/
theorem spans_unite {split : List (List Pattern)} :
    Spans (inTurn (unite split)) here there ↔ SpansSome split here there := by
  unfold unite
  split
  · rw [spansSome_single]
  · have flat : SpansSome (split.flatMap fun items => (inTurn items).branches) here there ↔
        SpansSome split here there := spansSome_flatMap split fun items => items
    rw [← flat]
    generalize split.flatMap (fun items => (inTurn items).branches) = flat
    have whole (items : List Pattern) (inside : items ∈ flat) :
        items = beginning flat ++ items.drop (beginning flat).length :=
      List.prefix_append_drop (beginning_isPrefix items inside)
    simp only [spans_inTurn_append, spans_choice, inTurn,
      spansSome_flatMap flat fun items => items.drop (beginning flat).length]
    constructor
    · rintro ⟨middle, shared, items, inside, rest⟩
      refine ⟨items, inside, ?_⟩
      rw [whole items inside, spans_inTurn_append]
      exact ⟨middle, shared, rest⟩
    · rintro ⟨items, inside, spans⟩
      rw [whole items inside, spans_inTurn_append] at spans
      obtain ⟨middle, shared, rest⟩ := spans
      exact ⟨middle, shared, items, inside, rest⟩

end Uniting

section Order

theorem ordered_inTurn : (inTurn items).Ordered ↔ ∀ item ∈ items, item.Ordered := by
  induction items using inTurn.induct with
  | case1 => simp [inTurn, Ordered]
  | case2 => simp [inTurn]
  | case3 first rest several inductionHypothesis =>
    rw [inTurn, Ordered, inductionHypothesis, List.forall_mem_cons]
    exact several

theorem ordered_items (pattern : Pattern) :
    (∀ item ∈ pattern.items, item.Ordered) ↔ pattern.Ordered := by
  induction pattern with
  | empty => simp [items, Ordered]
  | seq first second orderedFirst orderedSecond =>
    rw [items, List.forall_mem_append, orderedFirst, orderedSecond, Ordered]
  | _ => exact List.forall_mem_singleton

theorem allOrdered_append {others : List (List Pattern)} :
    AllOrdered (branches ++ others) ↔ AllOrdered branches ∧ AllOrdered others :=
  List.forall_mem_append

theorem allOrdered_single : AllOrdered [items] ↔ ∀ item ∈ items, item.Ordered :=
  List.forall_mem_singleton

theorem allOrdered_branches (pattern : Pattern) :
    AllOrdered pattern.branches ↔ pattern.Ordered := by
  induction pattern with
  | alt first second orderedFirst orderedSecond =>
    rw [Pattern.branches, allOrdered_append, orderedFirst, orderedSecond, Ordered]
  | _ => exact allOrdered_single.trans (ordered_items _)

theorem ordered_anyOf {patterns : List Pattern} :
    (anyOf first patterns).Ordered ↔ ∀ pattern ∈ first :: patterns, pattern.Ordered := by
  induction patterns generalizing first with
  | nil => simp [anyOf]
  | cons next patterns inductionHypothesis =>
    rw [anyOf, Ordered, inductionHypothesis, List.forall_mem_cons (l := next :: patterns)]

theorem ordered_ofSet (set : CharSet) : (ofSet set).Ordered := by
  unfold ofSet
  split
  · split <;> trivial
  · trivial

theorem AllOrdered.choice (ordered : AllOrdered branches) : (choice branches).Ordered := by
  unfold Pattern.choice
  split
  · exact ordered_ofSet _
  · trivial
  · rename_i first rest rows
    rw [ordered_anyOf, ← rows, List.forall_mem_map]
    exact fun items inside => ordered_inTurn.2 (ordered items inside)

theorem AllOrdered.flatMap (ordered : AllOrdered branches) (part : List Pattern → List Pattern)
    (subset : ∀ items, part items ⊆ items) :
    AllOrdered (branches.flatMap fun items => (inTurn (part items)).branches) := by
  intro branch among
  obtain ⟨items, inside, among⟩ := List.mem_flatMap.1 among
  have each : (inTurn (part items)).Ordered :=
    ordered_inTurn.2 fun item found => ordered items inside item (subset items found)
  exact (allOrdered_branches _).2 each branch among

theorem AllOrdered.beginning (ordered : AllOrdered branches) :
    ∀ item ∈ beginning branches, item.Ordered := by
  intro item shared
  cases branches with
  | nil => simp [Pattern.beginning] at shared
  | cons first others =>
    exact ordered first List.mem_cons_self item
      ((beginning_isPrefix first List.mem_cons_self).subset shared)

theorem AllOrdered.unite (ordered : AllOrdered branches) :
    ∀ item ∈ unite branches, item.Ordered := by
  unfold Pattern.unite
  split
  · exact allOrdered_single.1 ordered
  · have flat := ordered.flatMap id fun items => List.Subset.refl items
    rw [List.forall_mem_append, List.forall_mem_singleton]
    exact ⟨flat.beginning, (flat.flatMap _ fun items => List.drop_subset _ items).choice⟩

end Order

section Repeating

/-- A pattern without characters stays where it is. -/
theorem Spans.eq_of_vacuous {pattern : Pattern} (spans : Spans pattern here there)
    (ordered : pattern.Ordered) (vacuous : pattern.vacuous = true) : there = here := by
  induction spans with
  | empty | assert | enough => rfl
  | char | any | one => cases vacuous
  | seq _ _ first second =>
    obtain ⟨before, after⟩ := Bool.and_eq_true_iff.1 vacuous
    rw [second ordered.2 after, first ordered.1 before]
  | altFirst _ inductionHypothesis =>
    exact inductionHypothesis ordered.1 (Bool.and_eq_true_iff.1 vacuous).1
  | altSecond _ inductionHypothesis =>
    exact inductionHypothesis ordered.2 (Bool.and_eq_true_iff.1 vacuous).2
  | group _ inductionHypothesis => exact inductionHypothesis ordered vacuous
  | @round least most greedy body here middle there permitted _ _ first others =>
    obtain ⟨bounds, ordered⟩ := ordered
    -- a round is permitted, so it is the body that has no characters
    have body : body.vacuous = true := by
      obtain none | body := Bool.or_eq_true_iff.1 vacuous
      · obtain rfl := of_decide_eq_true none
        have := bounds 0 rfl
        simp only [ne_eq, not_true_eq_false, or_false] at permitted
        omega
      · exact body
    have fewer : ∀ bound ∈ most.map (· - 1), least - 1 ≤ bound := by
      intro _ inside
      obtain ⟨bound, written, rfl⟩ := Option.map_eq_some_iff.1 inside
      exact Nat.sub_le_sub_right (bounds bound written) 1
    rw [others ⟨fewer, ordered⟩ (Bool.or_eq_true_iff.2 (.inr body)), first ordered body]

/-- One round of a body that takes nothing does for all. -/
theorem spans_many_of_still (still : ∀ {here there}, Spans body here there → there = here) :
    Spans (.many least most greedy body) here there ↔
      there = here ∧ (least = 0 ∨ Spans body here here) := by
  constructor
  · intro spans
    generalize shape : many least most greedy body = pattern at spans
    induction spans generalizing least most with
    | enough =>
      cases shape
      exact ⟨rfl, .inl rfl⟩
    | round _ first _ _ inductionHypothesis =>
      cases shape
      obtain rfl := still first
      exact ⟨(inductionHypothesis rfl).1, .inr first⟩
    | _ => cases shape
  · rintro ⟨rfl, rfl | round⟩
    · exact .enough
    · induction least generalizing most with
      | zero => exact .enough
      | succ least inductionHypothesis =>
        exact .round (.inl least.succ_pos) round inductionHypothesis

theorem spans_many_none : Spans (.many 0 (some 0) greedy body) here there ↔ there = here := by
  rw [spans_many]
  simp

theorem spans_many_once :
    Spans (.many 1 (some 1) greedy body) here there ↔ Spans body here there := by
  rw [spans_many]
  simp [spans_many_none]

/-- The repetition of a branch; without rounds and with a single one nothing is repeated. -/
def spared (least : Nat) (most : Option Nat) (greedy : Bool) (items : List Pattern) :
    List Pattern :=
  if most = some 0 then []
  else if least = 1 && most = some 1 then items
  else [.many least most greedy (inTurn items)]

theorem repeated_eq : repeated least most greedy items =
    if (inTurn items).vacuous = true then
      spared (min least 1) (some (min 1 (most.getD 1))) greedy items
    else spared least most greedy items := by
  unfold repeated spared
  split <;> rename_i vacuous <;> simp only [vacuous, ↓reduceIte, Bool.false_eq_true]

theorem spans_spared (bounds : ∀ bound ∈ most, least ≤ bound) :
    Spans (inTurn (spared least most greedy items)) here there ↔
      Spans (.many least most greedy (inTurn items)) here there := by
  unfold spared
  split
  · rename_i none
    subst none
    obtain rfl := Nat.le_zero.1 (bounds 0 rfl)
    rw [spans_many_none, inTurn, spans_empty]
  · split
    · rename_i once
      obtain ⟨rfl, rfl⟩ := by simpa using once
      exact spans_many_once.symm
    · rfl

theorem ordered_spared (bounds : ∀ bound ∈ most, least ≤ bound)
    (ordered : ∀ item ∈ items, item.Ordered) :
    ∀ item ∈ spared least most greedy items, item.Ordered := by
  unfold spared
  split
  · simp
  · split
    · exact ordered
    · exact List.forall_mem_singleton.2 ⟨bounds, ordered_inTurn.2 ordered⟩

/-- The bounds stay in order when there is at most one round left. -/
theorem capped_bounds (bounds : ∀ bound ∈ most, least ≤ bound) :
    ∀ bound ∈ some (min 1 (most.getD 1)), min least 1 ≤ bound := by
  rintro _ ⟨⟩
  cases most with
  | none => exact Nat.min_le_right ..
  | some bound =>
    have := bounds bound rfl
    simp only [Option.getD_some]
    omega

theorem spans_repeated (bounds : ∀ bound ∈ most, least ≤ bound)
    (ordered : ∀ item ∈ items, item.Ordered) :
    Spans (inTurn (repeated least most greedy items)) here there ↔
      Spans (.many least most greedy (inTurn items)) here there := by
  rw [repeated_eq]
  split
  · rename_i vacuous
    have still {here there : Cursor} (spans : Spans (inTurn items) here there) : there = here :=
      spans.eq_of_vacuous (ordered_inTurn.2 ordered) vacuous
    have idle : min least 1 = 0 ↔ least = 0 := by omega
    rw [spans_spared (capped_bounds bounds), spans_many_of_still still,
      spans_many_of_still still, idle]
  · exact spans_spared bounds

theorem ordered_repeated (bounds : ∀ bound ∈ most, least ≤ bound)
    (ordered : ∀ item ∈ items, item.Ordered) :
    ∀ item ∈ repeated least most greedy items, item.Ordered := by
  rw [repeated_eq]
  split
  · exact ordered_spared (capped_bounds bounds) ordered
  · exact ordered_spared bounds ordered

end Repeating

section Normal

variable {pattern : Pattern}

theorem Ordered.allOrdered_normalBranches (ordered : pattern.Ordered) :
    AllOrdered pattern.normalBranches := by
  induction pattern with
  | empty => simp [normalBranches, AllOrdered]
  | assert | char => simp [normalBranches, AllOrdered, Ordered]
  | any | one => simp [normalBranches, AllOrdered, ordered_ofSet]
  | seq first second orderedFirst orderedSecond =>
    exact allOrdered_single.2
      (List.forall_mem_append.2 ⟨(orderedFirst ordered.1).unite, (orderedSecond ordered.2).unite⟩)
  | alt first second orderedFirst orderedSecond =>
    exact allOrdered_append.2 ⟨orderedFirst ordered.1, orderedSecond ordered.2⟩
  | group numbered body orderedBody =>
    have items := (orderedBody ordered).unite
    cases numbered with
    | true => exact allOrdered_single.2 (List.forall_mem_singleton.2 (ordered_inTurn.2 items))
    | false => exact allOrdered_single.2 items
  | many least most greedy body orderedBody =>
    exact allOrdered_single.2 (ordered_repeated ordered.1 (orderedBody ordered.2).unite)

theorem Ordered.spansSome_normalBranches (ordered : pattern.Ordered) :
    SpansSome pattern.normalBranches here there ↔ Spans pattern here there := by
  induction pattern generalizing here there with
  | empty | assert | char => exact spansSome_single
  | any =>
    refine spansSome_single.trans (spans_ofSet.trans ?_)
    rw [spans_one, spans_any]
    refine TakesOne.congr fun c => ?_
    rw [ne_eq, eq_iff_exists_range, ← CharSet.contains_ranges]
    simp only [CharSet.contains, Bool.bne_true, Bool.bne_false, Bool.not_eq_true',
      Bool.not_eq_true]
  | one => exact spansSome_single.trans spans_ofSet
  | seq first second spansFirst spansSecond =>
    rw [normalBranches, spansSome_single, spans_inTurn_append]
    simp only [spans_unite, spansFirst ordered.1, spansSecond ordered.2, spans_seq]
  | alt first second spansFirst spansSecond =>
    rw [normalBranches, spansSome_append, spansFirst ordered.1, spansSecond ordered.2, spans_alt]
  | group numbered body spansBody =>
    cases numbered <;>
      simp only [normalBranches, spansSome_single, inTurn, spans_group, spans_unite,
        spansBody ordered]
  | many least most greedy body spansBody =>
    have rounds {here there : Cursor} :
        Spans (inTurn (unite body.normalBranches)) here there ↔ Spans body here there :=
      spans_unite.trans (spansBody ordered.2)
    rw [normalBranches, spansSome_single,
      spans_repeated ordered.1 ordered.2.allOrdered_normalBranches.unite]
    exact ⟨.many_mono rounds.1, .many_mono rounds.2⟩

/-- A pattern and its normal form span the same. -/
theorem Ordered.spans_normal (ordered : pattern.Ordered) :
    Spans pattern.normal here there ↔ Spans pattern here there :=
  spans_unite.trans ordered.spansSome_normalBranches

end Normal

end DiceCalculator.Pattern
