import DiceCalculator.Roll.Uniform
import Mathlib.Algebra.Order.Floor.Div
import Mathlib.Data.Set.Card
import Mathlib.Order.Interval.Finset.Nat

/-!
# Every face has as many words

The multiples of the number of sides are spread evenly over the products of all
words with it. A face takes the products between two multiples of the size of a
word, and of them those that are accepted fill a whole number of steps from the
lower bound on: the words of a face stand in a row, and the row is as long for
each face.
-/

namespace DiceCalculator

/-- In steps of `n` there are `r` products from a bound on up to `n * r` behind it. -/
theorem quotient_and_remainder_iff {n r size word q : Nat} (pos : 0 < n) (fits : n * r ≤ size) :
    word * n / size = q ∧ word * n % size < n * r ↔
      size * q ⌈/⌉ n ≤ word ∧ word < size * q ⌈/⌉ n + r := by
  have split := Nat.div_add_mod (word * n) size
  have behind : (size * q + n * r) ⌈/⌉ n = size * q ⌈/⌉ n + r := by
    rw [Nat.ceilDiv_eq_add_pred_div, Nat.ceilDiv_eq_add_pred_div, ← Nat.add_mul_div_left _ r pos]
    congr 1
    omega
  rw [ceilDiv_le_iff_le_mul pos, ← behind, ← Nat.not_le (b := word), ceilDiv_le_iff_le_mul pos,
    Nat.not_le, Nat.mul_comm n word]
  constructor
  · rintro ⟨rfl, below⟩
    omega
  · rintro ⟨lower, upper⟩
    have quotient : word * n / size = q := by
      refine Nat.div_eq_of_lt_le ?_ ?_
      · rwa [Nat.mul_comm]
      · rw [Nat.add_one_mul, Nat.mul_comm q size]
        omega
    rw [quotient] at split
    exact ⟨quotient, by omega⟩

namespace Sides

variable (sides : Sides)

/-- How many zeros there are before the first one among the 32 bits of the number of sides. -/
def leadingZeros : Nat :=
  (BitVec.ofNat 32 sides.count).clz.toNat

theorem toNat_ofNat_count : (BitVec.ofNat 32 sides.count).toNat = sides.count := by
  rw [BitVec.toNat_ofNat]
  exact Nat.mod_eq_of_lt sides.lt_size

theorem ofNat_count_ne_zero : BitVec.ofNat 32 sides.count ≠ 0#32 := by
  intro zero
  have same := congrArg BitVec.toNat zero
  rw [toNat_ofNat_count] at same
  exact sides.pos.ne' same

theorem count_lt_two_pow : sides.count < 2 ^ (32 - sides.leadingZeros) := by
  have below := BitVec.toNat_lt_two_pow_sub_clz (x := BitVec.ofNat 32 sides.count)
  rwa [toNat_ofNat_count] at below

theorem two_pow_le_count : 2 ^ (31 - sides.leadingZeros) ≤ sides.count := by
  have least := BitVec.two_pow_sub_clz_le_toNat_of_ne_zero (by decide) sides.ofNat_count_ne_zero
  rwa [toNat_ofNat_count] at least

theorem leadingZeros_lt : sides.leadingZeros < 32 := by
  by_contra tooMany
  have below := sides.count_lt_two_pow
  rw [Nat.sub_eq_zero_of_le (Nat.le_of_not_lt tooMany)] at below
  have := sides.pos
  omega

theorem leadingZeros_eq : 31 - sides.count.log2 = sides.leadingZeros := by
  have few := sides.leadingZeros_lt
  have log : sides.count.log2 = 31 - sides.leadingZeros := by
    rw [Nat.log2_eq_iff sides.pos.ne']
    refine ⟨sides.two_pow_le_count, ?_⟩
    rw [show 31 - sides.leadingZeros + 1 = 32 - sides.leadingZeros by omega]
    exact sides.count_lt_two_pow
  omega

theorem count_mul_le : sides.count * 2 ^ sides.leadingZeros ≤ 0x100000000 := by
  calc sides.count * 2 ^ sides.leadingZeros
      ≤ 2 ^ (32 - sides.leadingZeros) * 2 ^ sides.leadingZeros :=
        Nat.mul_le_mul_right _ sides.count_lt_two_pow.le
    _ = 2 ^ 32 := by rw [← Nat.pow_add, Nat.sub_add_cancel sides.leadingZeros_lt.le]
    _ = 0x100000000 := rfl

theorem accepts_iff (word : UInt32) :
    sides.accepts word = true ↔
      word.toNat * sides.count % 0x100000000 < sides.count * 2 ^ sides.leadingZeros := by
  have pos : 0 < sides.count * 2 ^ sides.leadingZeros :=
    Nat.mul_pos sides.pos (Nat.two_pow_pos _)
  rw [accepts, zone, leadingZeros_eq, Nat.shiftLeft_eq, decide_eq_true_eq]
  omega

theorem div_lt_count (word : UInt32) : word.toNat * sides.count / 0x100000000 < sides.count := by
  refine Nat.div_lt_of_lt_mul ?_
  exact (Nat.mul_lt_mul_right sides.pos).2 word.toNat_lt

theorem toNat_faceOf (word : UInt32) :
    (sides.faceOf word).toNat = 1 + word.toNat * sides.count / 0x100000000 := by
  have high := sides.div_lt_count word
  have := sides.lt_size
  refine UInt32.toNat_ofNat_of_lt' ?_
  rw [UInt32.size]
  omega

/-- Every word tells a face of the die. -/
theorem faceOf_mem (word : UInt32) :
    1 ≤ (sides.faceOf word).toNat ∧ (sides.faceOf word).toNat ≤ sides.count := by
  have high := sides.div_lt_count word
  rw [toNat_faceOf]
  omega

/-- The first word from which on the products reach the face with the number `q + 1`. -/
def firstWord (q : Nat) : Nat :=
  0x100000000 * q ⌈/⌉ sides.count

/-- The accepted words of a face stand in a row. -/
theorem accepts_and_faceOf_iff {face : Face} {q : Nat} (face_eq : face.toNat = 1 + q)
    (word : UInt32) :
    sides.accepts word = true ∧ sides.faceOf word = face ↔
      sides.firstWord q ≤ word.toNat ∧
        word.toNat < sides.firstWord q + 2 ^ sides.leadingZeros := by
  rw [firstWord, ← quotient_and_remainder_iff sides.pos sides.count_mul_le, accepts_iff,
    ← UInt32.toNat_inj, toNat_faceOf, face_eq, Nat.add_right_inj, and_comm]

/-- The row of a face ends before the words do. -/
theorem lt_of_lt_firstWord_add {q n : Nat} (inside : q < sides.count)
    (lower : sides.firstWord q ≤ n) (upper : n < sides.firstWord q + 2 ^ sides.leadingZeros) :
    n < 0x100000000 := by
  have quotient :=
    ((quotient_and_remainder_iff sides.pos sides.count_mul_le).2 ⟨lower, upper⟩).1
  have high : n * sides.count / 0x100000000 < sides.count := by rwa [quotient]
  rw [Nat.div_lt_iff_lt_mul (by decide), Nat.mul_comm sides.count] at high
  exact Nat.lt_of_mul_lt_mul_right high

/-- Each face of the die has as many accepted words as a shift by the leading zeros says. -/
theorem ncard_words {face : Face} (least : 1 ≤ face.toNat) (most : face.toNat ≤ sides.count) :
    {word : UInt32 | sides.accepts word = true ∧ sides.faceOf word = face}.ncard =
      2 ^ sides.leadingZeros := by
  obtain ⟨q, face_eq⟩ := Nat.exists_eq_add_of_le least
  have row : UInt32.toNat '' {word | sides.accepts word = true ∧ sides.faceOf word = face} =
      Finset.Ico (sides.firstWord q) (sides.firstWord q + 2 ^ sides.leadingZeros) := by
    ext n
    simp only [Set.mem_image, Set.mem_ofPred_eq, Finset.coe_Ico, Set.mem_Ico,
      sides.accepts_and_faceOf_iff face_eq]
    constructor
    · rintro ⟨word, inside, rfl⟩
      exact inside
    · rintro ⟨lower, upper⟩
      have small := sides.lt_of_lt_firstWord_add (by omega) lower upper
      have same : (UInt32.ofNat n).toNat = n := UInt32.toNat_ofNat_of_lt' small
      exact ⟨UInt32.ofNat n, by rw [same]; exact ⟨lower, upper⟩, same⟩
  have injective : Function.Injective UInt32.toNat := fun _ _ => UInt32.toNat_inj.1
  rw [← Set.InjOn.ncard_image injective.injOn, row, Set.ncard_coe_finset, Nat.card_Ico,
    Nat.add_sub_cancel_left]

/-- The roll ends with the face: so many words are passed over, and the next one is accepted. -/
inductive Settles {σ : Type} [WordSource σ] : Nat → σ → Face → σ → Prop where
  | accepted {source} :
      sides.accepts (WordSource.next source).1 = true →
      Settles 0 source (sides.faceOf (WordSource.next source).1) (WordSource.next source).2
  | passed {n source face later} :
      sides.accepts (WordSource.next source).1 = false →
      Settles n (WordSource.next source).2 face later →
      Settles (n + 1) source face later

variable {sides} {σ : Type} [WordSource σ] {source later : σ} {n attempts : Nat} {face : Face}

theorem Settles.exists_word (settles : sides.Settles n source face later) :
    ∃ word, sides.accepts word = true ∧ face = sides.faceOf word := by
  induction settles with
  | accepted fits => exact ⟨_, fits, rfl⟩
  | passed _ _ inductionHypothesis => exact inductionHypothesis

/-- With enough attempts the roll ends where it would without a limit on them. -/
theorem Settles.drawFrom_eq (settles : sides.Settles n source face later)
    (enough : n ≤ attempts) : sides.drawFrom attempts source = (face, later) := by
  induction settles generalizing attempts with
  | accepted fits =>
    cases attempts with
    | zero => rfl
    | succ attempts => simp only [drawFrom, fits, ↓reduceIte]
  | passed misses _ inductionHypothesis =>
    cases attempts with
    | zero => exact absurd enough (Nat.not_succ_le_zero _)
    | succ attempts =>
      simp only [drawFrom, misses, Bool.false_eq_true, ↓reduceIte]
      exact inductionHypothesis (Nat.le_of_succ_le_succ enough)

variable (sides) in
theorem drawFrom_mem (attempts : Nat) (source : σ) :
    1 ≤ (sides.drawFrom attempts source).1.toNat ∧
      (sides.drawFrom attempts source).1.toNat ≤ sides.count := by
  induction attempts generalizing source with
  | zero => exact sides.faceOf_mem _
  | succ attempts inductionHypothesis =>
    rw [drawFrom]
    dsimp only
    split
    · exact sides.faceOf_mem _
    · exact inductionHypothesis _

/-- A die shows one of its faces, and the face of the first accepted word as long as no more words
are passed over than there are. Of all words each face has the same number of accepted ones: two to
the power of the leading zeros of the number of sides. -/
theorem draw_uniform (sides : Sides) :
    (∀ (σ : Type) [WordSource σ] (roller : Uniform σ),
      1 ≤ (Roller.draw sides roller).1.toNat ∧
        (Roller.draw sides roller).1.toNat ≤ sides.count) ∧
    (∀ (σ : Type) [WordSource σ] (n : Nat) (source later : σ) (face : Face),
      sides.Settles n source face later →
      1 ≤ face.toNat ∧ face.toNat ≤ sides.count ∧
        (∃ word, sides.accepts word = true ∧ face = sides.faceOf word) ∧
        (n ≤ 0x100000000 →
          Roller.draw sides (⟨source⟩ : Uniform σ) = (face, (⟨later⟩ : Uniform σ)))) ∧
    ∀ face : Face, 1 ≤ face.toNat → face.toNat ≤ sides.count →
      {word : UInt32 | sides.accepts word = true ∧ sides.faceOf word = face}.ncard =
        2 ^ (BitVec.ofNat 32 sides.count).clz.toNat := by
  refine ⟨?_, ?_, fun face => sides.ncard_words⟩
  · intro σ _ roller
    exact sides.drawFrom_mem _ roller.source
  · intro σ _ n source later face settles
    obtain ⟨word, fits, rfl⟩ := settles.exists_word
    refine ⟨(sides.faceOf_mem word).1, (sides.faceOf_mem word).2, ⟨word, fits, rfl⟩, ?_⟩
    intro enough
    simp only [Roller.draw, settles.drawFrom_eq enough]

/-- A die with three sides passes over the word `2 ^ 30` and shows a one at the word seven. Each of
its faces has `2 ^ 30` words. -/
theorem draw_uniform_three :
    let sides : Sides := { count := 3 }
    let source : WordSource (List UInt32) := ⟨fun words => (words.headD 0, words.tail)⟩
    let words : List UInt32 := [0x40000000, 7, 8]
    sides.Settles 1 words 1 [8] ∧
    Roller.draw sides (⟨words⟩ : Uniform (List UInt32)) = (1, (⟨[8]⟩ : Uniform (List UInt32))) ∧
    {word : UInt32 | sides.accepts word = true ∧ sides.faceOf word = 3}.ncard = 2 ^ 30 := by
  intro sides source words
  have misses : sides.accepts (WordSource.next words).1 = false := by decide
  have last := @Settles.accepted sides _ source words.tail (by decide)
  have one : sides.faceOf (WordSource.next words.tail).1 = 1 := by decide
  have settles : sides.Settles 1 words 1 [8] := .passed misses (one ▸ last)
  have zeros : (BitVec.ofNat 32 sides.count).clz.toNat = 30 := by decide
  obtain ⟨-, -, -, draws⟩ := (draw_uniform sides).2.1 _ 1 words [8] 1 settles
  have each := (draw_uniform sides).2.2 3 (by decide) (by decide)
  rw [zeros] at each
  exact ⟨settles, draws (by decide), each⟩

end Sides

end DiceCalculator
