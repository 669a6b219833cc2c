import DiceCalculator.Proofs.Evaluation.Expansion
import DiceCalculator.Proofs.Evaluation.Parentheses
import DiceCalculator.Proofs.Session.Precedence

/-!
# Sums of dice

A group of dice is a repetition, and a repetition is not a term: it may begin a
sum but not be added to one, unless it is in parentheses. Where it is added all
the same, matching from the end finds the group and nothing that could take it
in, since no term ends with a number and a die in a row. So what stands in front
of the last group is left out, and its dice are not rolled.
-/

namespace DiceCalculator.Dice

open Grammar RollM

/-- As many dice with as many sides, and at least one of either. -/
structure DiceGroup where
  count : Decimal
  letter : Char
  sides : Decimal
  letter_mem : letter ∈ ['D', 'd']
  count_pos : 0 < spelled count.text.toList
  sides_pos : 0 < spelled sides.text.toList

/-- The sum of the faces, or the greatest value. -/
def totalOf (faces : List Face) : Int :=
  within (faces.map UInt32.toNat).sum

namespace DiceGroup

variable (group : DiceGroup)

def token : Token :=
  ⟨.dice, String.ofList (group.letter :: group.sides.text.toList)⟩

def tokens : List Token :=
  [group.count.token, group.token]

/-- More sides than fit into 32 bits are as many as do. -/
def die : Sides :=
  ⟨min (spelled group.sides.text.toList) 0xffffffff, by have := group.sides_pos; omega, by omega⟩

/-- More dice than the greatest value are as many as that. -/
def dice : List Sides :=
  List.replicate group.count.worth.toNat group.die

end DiceGroup

/-- What comes of the groups when each is taken from the left, with the faces dealt out to them. -/
def dealt (start : Int) : List (Operator .sum × DiceGroup) → List Face → Int
  | [], _ => start
  | (op, group) :: others, faces =>
    let next := op.step start (totalOf (faces.take group.dice.length))
    dealt next others (faces.drop group.dice.length)

/-- Groups of dice with signs between them. -/
abbrev GroupSum := Chain .sum DiceGroup

namespace GroupSum

variable (sum : GroupSum)

/-- The sum as it is written without parentheses. -/
def bare : List Token :=
  sum.tokens DiceGroup.tokens

/-- The sum with all groups but the first one in parentheses. -/
def grouped : List Token :=
  sum.first.tokens ++ sum.others.flatMap fun link => link.1.token :: enclosed link.2.tokens 1

def dice : List Sides :=
  sum.first.dice ++ sum.others.flatMap fun link => link.2.dice

def total (faces : List Face) : Int :=
  let own := sum.first.dice.length
  dealt (totalOf (faces.take own)) sum.others (faces.drop own)

def lastGroup : DiceGroup :=
  (sum.others.map Prod.snd).getLastD sum.first

end GroupSum

section Rolling

/-- One die as it is rolled. -/
def rolled (sides : Sides) : Computation := fun _ _ => do
  return .single (.clamp (← RollM.rollDie sides).toNat)

/-- A text of the tokens is cut into them, whatever white space is between them, or none. -/
def ComesBack (tokens : List Token) : Prop :=
  ∀ (pieces : List (String × Token)) (last : String), pieces.map Prod.snd = tokens →
    (∀ piece ∈ pieces, Blank piece.1) → Blank last → tokenize (joined pieces last) = .ok tokens

theorem Spaced.comesBack {tokens : List Token} (spaced : Spaced tokens) : ComesBack tokens := by
  rintro pieces last rfl blanks blank
  exact spaced.tokenize_joined blanks blank

theorem Spaced.lexical {tokens : List Token} (spaced : Spaced tokens) :
    ∀ token ∈ tokens, Lexical token :=
  fun token member => lexical_of_spells (wellFormed_iff.1 (spaced.wellFormed token member)).2

/-- The tokens draw the dice and come to a value that is told from their faces. They need no white
space between them. -/
structure Totals (X : Nonterminal) (tokens : List Token) (dice : List Sides)
    (worth : List Face → Int) : Prop where
  exists_computation : ∃ computation, Denotes X tokens computation ∧ ∀ (σ : Type) [Roller σ],
    Asks dice (fun faces values => ∃ value : Value, value.toInt = worth faces ∧
      values = .single value) (computation σ)
  spaced : Spaced tokens

theorem totalOf_nonneg (faces : List Face) : 0 ≤ totalOf faces := by
  rw [totalOf, within]
  omega

/-- Faces are added one after the other, as long as the bound allows. -/
theorem asks_addRounds_rolled (sides : Sides) (n : Nat) {σ : Type} [Roller σ] :
    Asks (List.replicate n sides) (fun faces total => total.toInt = totalOf faces)
      (addRounds (leading (rolled sides σ)) n 0) := by
  have round : Asks [sides] (fun faces value => ∃ face, faces = [face] ∧ value = .clamp face.toNat)
      (leading (rolled sides σ)) :=
    Asks.leading ((Asks.rollDie sides).map fun _ face _ same => ⟨face, same, rfl⟩)
  rw [← List.flatten_replicate_singleton]
  refine round.addRounds (fun _ faces total => total.toInt = totalOf faces) ?step n rfl
  case step =>
    rintro k before total _ _ kept ⟨face, rfl, rfl⟩ -
    have := face.toNat_lt
    rw [Value.add_eq, Value.toInt_clamp, kept, totalOf, totalOf, List.map_append, List.sum_append]
    simp only [within, Value.toInt_clamp, List.map_cons, List.map_nil, List.sum_cons, List.sum_nil]
    omega

namespace DiceGroup

variable (group : DiceGroup)

theorem spells_token : Spells .dice group.token.text.toList := by
  rw [token, String.toList_ofList]
  exact ⟨group.letter, group.letter_mem, _, rfl, group.sides.row⟩

theorem denotes_token : Denotes .atom [group.token] (rolled group.die) := by
  refine ⟨.leaf .die group.token, .die rfl, rfl, fun σ _ => ?_⟩
  have sides : sidesOf? group.token.text = some group.die := by
    rw [sidesOf?_eq group.spells_token, token, String.toList_ofList, List.tail_cons, Sides.ofNat?,
      dif_pos group.sides_pos]
    rfl
  rw [evaluate_die, sides]
  rfl

theorem spaced : Spaced group.tokens := by
  have count : WellFormed group.count.token := wellFormed_iff.2 ⟨nofun, group.count.row⟩
  have die : WellFormed group.token := wellFormed_iff.2 ⟨nofun, group.spells_token⟩
  refine ⟨?_, List.isChain_pair.2 (breaks_before_dice die rfl)⟩
  simp [tokens, count, die]

/-- As many rounds of the die as the number says. -/
def computation : Computation :=
  repeated (constant (.ofNumeral group.count.text)) (rolled group.die)

theorem denotes : Denotes .arithExpr group.tokens group.computation :=
  (denotes_number group.count.text).operand.rounds group.denotes_token.operand

theorem toInt_count : (Value.ofNumeral group.count.text).toInt = group.count.worth :=
  toInt_ofNumeral_eq_min group.count.row

theorem asks (σ : Type) [Roller σ] :
    Asks group.dice
      (fun faces values => ∃ value : Value, value.toInt = totalOf faces ∧ values = .single value)
      (group.computation σ) := by
  rw [dice, ← group.toInt_count]
  refine (Steady.pure _).leading.before ((Steady.request _).before ?_)
  exact (asks_addRounds_rolled group.die _).map fun _ value _ same => ⟨value, same, rfl⟩

theorem totals : Totals .arithExpr group.tokens group.dice totalOf :=
  ⟨⟨_, group.denotes, fun σ _ => group.asks σ⟩, group.spaced⟩

end DiceGroup

namespace Totals

variable {X : Nonterminal} {us vs : List Token} {dice more : List Sides}
  {worth worthToo : List Face → Int}

theorem congr (totals : Totals X us dice worth)
    (same : ∀ faces : List Face, faces.length = dice.length → worth faces = worthToo faces) :
    Totals X us dice worthToo := by
  obtain ⟨computation, denotes, asks⟩ := totals.exists_computation
  refine ⟨⟨computation, denotes, fun σ _ => (asks σ).mono ?_⟩, totals.spaced⟩
  rintro faces _ length ⟨value, worth_eq, rfl⟩
  exact ⟨value, worth_eq.trans (same faces length), rfl⟩

theorem node (op : Operator .sum) (left : Totals .arithExpr us dice worth)
    (right : Totals .term vs more worthToo) (nonneg : ∀ faces, 0 ≤ worthToo faces) :
    Totals .arithExpr (us ++ op.token :: vs) (dice ++ more) fun faces =>
      op.step (worth (faces.take dice.length)) (worthToo (faces.drop dice.length)) := by
  obtain ⟨first, denotesLeft, asksLeft⟩ := left.exists_computation
  obtain ⟨second, denotesRight, asksRight⟩ := right.exists_computation
  refine ⟨⟨op.between first second, denotesLeft.operation op denotesRight, fun σ _ => ?_⟩, ?_⟩
  · have leadingLeft : Asks dice (fun faces value => value.toInt = worth faces)
        (leading (first σ)) :=
      (asksLeft σ).map fun _ _ _ ⟨_, same, single⟩ => single ▸ same
    have leadingRight : Asks more (fun faces value => value.toInt = worthToo faces)
        (leading (second σ)) :=
      (asksRight σ).map fun _ _ _ ⟨_, same, single⟩ => single ▸ same
    refine leadingLeft.bind fun faces a length same => leadingRight.map fun later b _ sameToo => ?_
    refine ⟨op.apply a b, ?_, rfl⟩
    rw [List.take_left' length, List.drop_left' length, ← same, ← sameToo]
    exact op.toInt_apply nofun (sameToo ▸ nonneg later)
  · exact left.spaced.mark (by simp [Operator.token, Level.kind, marks]) op.wellFormed_token
      right.spaced

theorem enclosed (totals : Totals .arithExpr us dice worth) :
    Totals .term (enclosed us 1) dice worth := by
  obtain ⟨computation, denotes, asks⟩ := totals.exists_computation
  have nothing : Spaced [] := ⟨by simp, .nil⟩
  have inner := totals.spaced.mark (by simp [closing, marks]) wellFormed_closing nothing
  exact ⟨⟨computation, denotes.nested.operand, asks⟩,
    nothing.mark (by simp [opening, marks]) wellFormed_opening inner⟩

theorem fromLeft (first : Totals .arithExpr us dice worth)
    (others : List (Operator .sum × DiceGroup)) :
    Totals .arithExpr
      (us ++ others.flatMap fun link => link.1.token :: Dice.enclosed link.2.tokens 1)
      (dice ++ others.flatMap fun link => link.2.dice)
      fun faces => dealt (worth (faces.take dice.length)) others (faces.drop dice.length) := by
  induction others generalizing us dice worth with
  | nil =>
    rw [List.flatMap_nil, List.flatMap_nil, List.append_nil, List.append_nil]
    refine first.congr fun faces length => ?_
    rw [dealt, List.take_of_length_le length.le]
  | cons link others inductionHypothesis =>
    obtain ⟨op, group⟩ := link
    have longer := inductionHypothesis (first.node op group.totals.enclosed totalOf_nonneg)
    rw [List.append_assoc, List.append_assoc] at longer
    refine longer.congr fun faces _ => ?_
    rw [dealt, List.length_append, List.take_take, List.drop_take, List.drop_drop,
      Nat.min_eq_left (Nat.le_add_right _ _), Nat.add_sub_cancel_left]

end Totals

/-- Without a limit the tree draws the dice in this order and comes to what their faces are worth,
whatever the roller gives. -/
def Rolls (tree : Tree Action) (dice : List Sides) (worth : List Face → Int) : Prop :=
  ∀ {σ : Type} [Roller σ] (rolls : Nat) (roller : σ),
    (draws tree ⟨none, rolls, roller⟩).map Draw.sides = dice ∧
    ∃ value : Value, value.toInt = worth (Roller.drawAll dice roller).1 ∧
      ComesTo (evaluate tree) rolls roller (.single value) (Roller.drawAll dice roller).2

theorem Totals.exists_rolls {us : List Token} {dice : List Sides} {worth : List Face → Int}
    (totals : Totals .arithExpr us dice worth) :
    ∃ tree, Derives .expr tree ∧ tree.tokens = us ∧ Rolls tree dice worth := by
  obtain ⟨computation, denotes, asks⟩ := totals.exists_computation
  obtain ⟨tree, derivation, tokens_eq, evaluated⟩ := denotes.value.only
  refine ⟨tree, derivation, tokens_eq, fun {σ} _ rolls roller => ?_⟩
  simp only [← evaluated] at asks
  obtain ⟨_, comes, value, same, rfl⟩ := asks σ rolls roller
  exact ⟨Asks.sides_draws asks rolls roller, value, same, comes⟩

theorem GroupSum.totals (sum : GroupSum) : Totals .arithExpr sum.grouped sum.dice sum.total :=
  sum.first.totals.fromLeft sum.others

end Rolling

section Matching

variable {tree : Tree Action} {sign : Token} {earlier : List Token} (group : DiceGroup)

/-- A mark that is not in the last word of a list stands in front of it. -/
theorem exists_append_of_mark {α : Type} {front back earlier last : List α} {mark : α}
    (outside : mark ∉ last) (same : front ++ mark :: back = earlier ++ last) :
    ∃ middle, back = middle ++ last := by
  obtain ⟨middle, rfl, cut⟩ | ⟨middle, rfl, cut⟩ := List.append_eq_append_iff.1 same
  · cases middle with
    | nil => exact absurd (by simp [← show mark :: back = last from cut]) outside
    | cons _ middle => exact ⟨middle, (List.cons.inj cut).2⟩
  · exact absurd (cut ▸ List.mem_append_right middle List.mem_cons_self) outside

theorem dot_or_factor_of_last {before last : Token} (derivation : Derives .term tree)
    (lexical : ∀ token ∈ tree.tokens, Lexical token) (atom : last.kind ∈ [.number, .dice])
    (same : tree.tokens = earlier ++ [before, last]) :
    before.text = "." ∨ before.kind = .factorOp := by
  obtain ⟨action, alone⟩ : ∃ action, Derives .term (.branch .same [.leaf action last]) := by
    simp only [List.mem_cons, List.not_mem_nil, or_false] at atom
    rcases atom with number | die
    · exact ⟨.number, .operand (.number number)⟩
    · exact ⟨.die, .operand (.die die)⟩
  exact derivation.dot_or_factor_of_term_append alone lexical same

/-- No term ends with a group. -/
theorem term_ne_append_group (derivation : Derives .term tree)
    (lexical : ∀ token ∈ tree.tokens, Lexical token) :
    tree.tokens ≠ earlier ++ group.tokens := by
  intro same
  have count : Lexical group.count.token := lexical _ (by simp [same, DiceGroup.tokens])
  obtain dot | factor := dot_or_factor_of_last derivation lexical (by simp [DiceGroup.token]) same
  · exact count.text_ne nofun (by simp) dot
  · cases factor

theorem DiceGroup.notMem_tokens {token : Token} (other : token.kind ∉ [.number, .dice]) :
    token ∉ group.tokens := by
  rintro member
  simp only [DiceGroup.tokens, List.mem_cons, List.not_mem_nil, or_false] at member
  rcases member with rfl | rfl
  · simp [Decimal.token] at other
  · simp [DiceGroup.token] at other

section Behind

variable (isSign : sign.kind = .arithOp)

include isSign

/-- Nor do two terms in a row, if there is a sign before the group. -/
theorem rounds_ne_append_group {count term : Tree Action} (countDerives : Derives .term count)
    (termDerives : Derives .term term)
    (lexical : ∀ token ∈ count.tokens ++ term.tokens, Lexical token) :
    count.tokens ++ term.tokens ≠ earlier ++ sign :: group.tokens := by
  intro same
  obtain ⟨lexicalCount, lexicalTerm⟩ := List.forall_mem_append.1 lexical
  obtain ⟨init, last, ends⟩ := (List.eq_nil_or_concat' _).resolve_left termDerives.tokens_ne_nil
  have whole : count.tokens ++ init ++ [last] =
      earlier ++ [sign, group.count.token] ++ [group.token] := by
    rw [List.append_assoc, ← ends, same]
    simp [DiceGroup.tokens]
  obtain ⟨before, rfl⟩ := List.append_singleton_inj.1 whole
  -- The second term is the die alone, or it has the number before it too.
  obtain rfl | ⟨init, number, rfl⟩ := List.eq_nil_or_concat' init
  · rw [List.append_nil] at before
    have lexicalSign : Lexical sign := lexicalCount sign (by simp [before])
    obtain dot | factor :=
      dot_or_factor_of_last countDerives lexicalCount (by simp [Decimal.token]) before
    · exact lexicalSign.text_ne (by simp [isSign]) (by simp) dot
    · simp [isSign] at factor
  · have rest : count.tokens ++ init ++ [number] = earlier ++ [sign] ++ [group.count.token] := by
      simpa using before
    obtain ⟨-, rfl⟩ := List.append_singleton_inj.1 rest
    rw [List.append_assoc] at ends
    exact term_ne_append_group group termDerives lexicalTerm ends

theorem arithExpr_ne_append_group (derivation : Derives .arithExpr tree)
    (lexical : ∀ token ∈ tree.tokens, Lexical token) :
    tree.tokens ≠ earlier ++ sign :: group.tokens := by
  intro same
  have cut : tree.tokens = (earlier ++ [sign]) ++ group.tokens := by simp [same]
  cases derivation with
  | single term =>
    rw [Tree.tokens_one] at lexical cut
    exact term_ne_append_group group term lexical cut
  | @negate mark _ text term =>
    rw [Tree.tokens_two] at lexical cut
    obtain ⟨lexicalMark, lexicalTerm⟩ := List.forall_mem_cons.1 lexical
    have outside : mark ∉ group.tokens := group.notMem_tokens (by simp [lexicalMark.minus text])
    obtain ⟨middle, ends⟩ := exists_append_of_mark outside (show [] ++ mark :: _ = _ from cut)
    exact term_ne_append_group group term lexicalTerm ends
  | combine _ op term =>
    rw [Tree.tokens_three] at lexical cut
    cases op with
    | @plusMinusOp mark kind =>
      have lexicalTerm := (List.forall_mem_cons.1 (List.forall_mem_append.1 lexical).2).2
      have outside : mark ∉ group.tokens := group.notMem_tokens (by simp [kind])
      obtain ⟨middle, ends⟩ := exists_append_of_mark outside cut
      exact term_ne_append_group group term lexicalTerm ends
  | rounds count term =>
    rw [Tree.tokens_two] at lexical same
    exact rounds_ne_append_group group isSign count term lexical same

theorem notMem_of_punctuation {mark : Token} (lexical : Lexical mark)
    (punctuation : mark.text ∈ [",", "="]) : mark ∉ sign :: group.tokens := by
  have isLiteral : mark.kind = .literal := by
    simp only [List.mem_cons, List.not_mem_nil, or_false] at punctuation
    exact lexical.punctuation (by rcases punctuation with comma | equals <;> simp [*])
  intro member
  obtain rfl | member := List.mem_cons.1 member
  · simp [isSign] at isLiteral
  · exact group.notMem_tokens (by simp [isLiteral]) member

theorem assignment_ne_append_group (derivation : Derives .assignment tree)
    (lexical : ∀ token ∈ tree.tokens, Lexical token) :
    tree.tokens ≠ earlier ++ sign :: group.tokens := by
  intro same
  cases derivation with
  | value value =>
    rw [Tree.tokens_one] at lexical same
    exact arithExpr_ne_append_group group isSign value lexical same
  | assign _ text value =>
    rw [Tree.tokens_three] at lexical same
    obtain ⟨lexicalMark, lexicalValue⟩ :=
      List.forall_mem_cons.1 (List.forall_mem_append.1 lexical).2
    have outside := notMem_of_punctuation group isSign lexicalMark (by simp [text])
    obtain ⟨middle, ends⟩ := exists_append_of_mark outside same
    exact arithExpr_ne_append_group group isSign value lexicalValue ends

theorem expr_ne_append_group (derivation : Derives .expr tree)
    (lexical : ∀ token ∈ tree.tokens, Lexical token) :
    tree.tokens ≠ earlier ++ sign :: group.tokens := by
  intro same
  cases derivation with
  | only last =>
    rw [Tree.tokens_one] at lexical same
    exact assignment_ne_append_group group isSign last lexical same
  | list _ text last =>
    rw [Tree.tokens_three] at lexical same
    obtain ⟨lexicalMark, lexicalLast⟩ :=
      List.forall_mem_cons.1 (List.forall_mem_append.1 lexical).2
    have outside := notMem_of_punctuation group isSign lexicalMark (by simp [text])
    obtain ⟨middle, ends⟩ := exists_append_of_mark outside same
    exact assignment_ne_append_group group isSign last lexicalLast ends

end Behind

/-- So a group behind a sign is parsed alone. -/
theorem parse_append_group (derivation : Derives .expr tree) (isSign : sign.kind = .arithOp)
    (written : tree.tokens = group.tokens)
    (lexical : ∀ token ∈ earlier ++ sign :: group.tokens, Lexical token) :
    (grammar.parse (earlier ++ sign :: group.tokens)).found =
      some ⟨earlier.length + 1, tree⟩ := by
  obtain ⟨answers, reading, found_eq⟩ := exists_reading_of_lexical lexical
  have whole : Occurs (earlier ++ sign :: group.tokens) (earlier ++ ([sign] ++ tree.tokens)) 0 _ :=
    ⟨Nat.zero_le _, le_rfl, by rw [stretch, List.take_length, written]; rfl⟩
  obtain ⟨place, before, rest⟩ := whole.split
  obtain ⟨start, single, occurs⟩ := rest.split
  have place_eq : 0 + earlier.length = place := before.length_eq
  have start_eq : place + 1 = start := single.length_eq
  obtain rfl : start = earlier.length + 1 := by omega
  refine (found_eq .expr).trans (reading.exact (reading.covers derivation occurs) single occurs ?_)
  intro longer front long lexicalLong same
  exact expr_ne_append_group group isSign long lexicalLong (written ▸ same)

end Matching

namespace GroupSum

variable (sum : GroupSum)

theorem spaced_bare : Spaced sum.bare := by
  obtain ⟨first, others⟩ := sum
  have links {us : List Token} (front : Spaced us) :
      Spaced (us ++ others.flatMap fun link => link.1.token :: link.2.tokens) := by
    induction others generalizing us with
    | nil =>
      rw [List.flatMap_nil, List.append_nil]
      exact front
    | cons link others inductionHypothesis =>
      have longer := inductionHypothesis
        (front.mark (by simp [Operator.token, Level.kind, marks]) link.1.wellFormed_token
          link.2.spaced)
      rwa [List.append_assoc] at longer
  exact links first.spaced

/-- What is in front of the last group ends with a sign. -/
theorem exists_bare_eq : sum.bare = sum.lastGroup.tokens ∨
    ∃ earlier, ∃ op : Operator .sum, sum.bare = earlier ++ op.token :: sum.lastGroup.tokens := by
  obtain ⟨first, others⟩ := sum
  obtain rfl | ⟨others, ⟨op, last⟩, rfl⟩ := List.eq_nil_or_concat' others
  · exact .inl (List.append_nil _)
  · refine .inr ⟨bare ⟨first, others⟩, op, ?_⟩
    simp [bare, Chain.tokens, lastGroup]

end GroupSum

/-- A sum of groups of dice with all but the first of them in parentheses is parsed as a whole: it
draws the dice of all groups in order, and comes to their sum from the left, where each step stays
within the bounds. Without the parentheses nothing is parsed but the last group, which is all there
is if there is only one. -/
theorem parse_groups (sum : GroupSum) :
    (ComesBack sum.grouped ∧
      ∃ tree, (grammar.parse sum.grouped).found = some ⟨0, tree⟩ ∧ tree.tokens = sum.grouped ∧
        Rolls tree sum.dice sum.total) ∧
    ComesBack sum.bare ∧
      ∃ tree, (grammar.parse sum.bare).found = some ⟨sum.bare.length - 2, tree⟩ ∧
        tree.tokens = sum.lastGroup.tokens ∧ Rolls tree sum.lastGroup.dice totalOf := by
  have totals := sum.totals
  obtain ⟨tree, derivation, written, rolls⟩ := totals.exists_rolls
  refine ⟨⟨totals.spaced.comesBack, tree, ?_, written, rolls⟩, sum.spaced_bare.comesBack, ?_⟩
  · rw [← written]
    exact parse_of_derives derivation (written ▸ totals.spaced.lexical)
  · obtain ⟨tree, derivation, written, rolls⟩ := sum.lastGroup.totals.exists_rolls
    refine ⟨tree, ?_, written, rolls⟩
    have lexical := sum.spaced_bare.lexical
    obtain alone | ⟨earlier, op, behind⟩ := sum.exists_bare_eq
    · have parsed := parse_of_derives derivation (written ▸ alone ▸ lexical)
      rw [alone, ← written, parsed, written]
      rfl
    · rw [behind] at lexical ⊢
      have start : (earlier ++ op.token :: sum.lastGroup.tokens).length - 2 =
          earlier.length + 1 := by
        rw [List.length_append]
        rfl
      rw [start]
      exact parse_append_group _ derivation rfl written lexical

/-- Six less two times eight, and two times eight. -/
theorem parse_groups_difference :
    let sum : GroupSum := ⟨⟨⟨"1", by decide⟩, 'd', ⟨"6", by decide⟩, by decide, by decide, by decide⟩,
      [(.minus, ⟨⟨"2", by decide⟩, 'D', ⟨"8", by decide⟩, by decide, by decide, by decide⟩)]⟩
    tokenize "1d6 - (2D8)" = .ok sum.grouped ∧ tokenize "1d6-2D8" = .ok sum.bare ∧
    (∃ tree, (grammar.parse sum.grouped).found = some ⟨0, tree⟩ ∧
      ComesTo (evaluate tree) 0 ({} : Highest) (.single (-10)) ⟨3⟩) ∧
    ∃ tree, (grammar.parse sum.bare).found = some ⟨3, tree⟩ ∧
      ComesTo (evaluate tree) 0 ({} : Highest) (.single 16) ⟨2⟩ := by
  intro sum
  obtain ⟨⟨cutGrouped, whole, wholeFound, -, wholeRolls⟩, cutBare, last, lastFound, -, lastRolls⟩ :=
    parse_groups sum
  let spread := ["", "", " ", " ", "", "", ""].zip sum.grouped
  let dense := sum.bare.map fun token => ("", token)
  have spread_eq : joined spread "" = "1d6 - (2D8)" := by decide +kernel
  have dense_eq : joined dense "" = "1d6-2D8" := by decide +kernel
  have grouped := cutGrouped spread "" (by decide +kernel) (by decide +kernel) (by decide)
  have bare := cutBare dense "" (by decide +kernel) (by decide +kernel) (by decide)
  rw [spread_eq] at grouped
  rw [dense_eq] at bare
  obtain ⟨-, difference, worth, wholeComes⟩ := wholeRolls 0 ({} : Highest)
  obtain ⟨-, total, lastWorth, lastComes⟩ := lastRolls 0 ({} : Highest)
  have three : (Roller.drawAll sum.dice ({} : Highest)).2 = ⟨3⟩ := by decide +kernel
  have two : (Roller.drawAll sum.lastGroup.dice ({} : Highest)).2 = ⟨2⟩ := by decide +kernel
  have start : sum.bare.length - 2 = 3 := by decide +kernel
  obtain rfl : difference = -10 := Value.ext (worth.trans (by decide +kernel))
  obtain rfl : total = 16 := Value.ext (lastWorth.trans (by decide +kernel))
  rw [three] at wholeComes
  rw [two] at lastComes
  rw [start] at lastFound
  exact ⟨grouped, bare, ⟨whole, wholeFound, wholeComes⟩, last, lastFound, lastComes⟩

/-- The first group and the sign are lost: one die is not rolled, and its face not added. -/
theorem parse_bare_lost :
    let sum : GroupSum := ⟨⟨⟨"1", by decide⟩, 'd', ⟨"6", by decide⟩, by decide, by decide, by decide⟩,
      [(.plus, ⟨⟨"2", by decide⟩, 'd', ⟨"8", by decide⟩, by decide, by decide, by decide⟩)]⟩
    let tree : Tree Action := .branch .same [.branch .same [.branch .rounds [
      .branch .same [.leaf .number ⟨.number, "2"⟩], .branch .same [.leaf .die ⟨.dice, "d8"⟩]]]]
    let eight : Sides := { count := 8 }
    tokenize "1d6+2d8" = .ok sum.bare ∧ (grammar.parse sum.bare).found = some ⟨3, tree⟩ ∧
    tree.tokens ≠ sum.bare ∧
    (draws tree (.fresh none ({} : Highest))).map Draw.sides = [eight, eight] ∧
    sum.dice = { count := 6 } :: [eight, eight] ∧
    ((evaluate tree).runIn (.fresh none ({} : Highest))).1 = .ok (.single 16) ∧
    sum.total [6, 8, 8] = 22 := by
  intro sum tree eight
  have cut : tokenize "1d6+2d8" = .ok sum.bare := by decide +kernel
  have found : (grammar.parse sum.bare).found = some ⟨3, tree⟩ := by decide +kernel
  exact ⟨cut, found, by decide, by decide +kernel, by decide, by decide, by decide⟩

end DiceCalculator.Dice
