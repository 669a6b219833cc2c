import DiceCalculator.Roll.Roller

/-!
# Uniform dice

Faces from a source of 32-bit words. The product of a word and the number of
sides has a high half, which tells the face, and a low half. Words whose low
half lies beyond a bound are passed over; the bound leaves the same number of
words for every face.
-/

namespace DiceCalculator

/-- A source of 32-bit words with a state of type `σ`. -/
class WordSource (σ : Type) where
  next : σ → UInt32 × σ

namespace Sides

/-- The last low half that is accepted: one less than the number of sides, shifted up as far as
32 bits allow. -/
def zone (sides : Sides) : Nat :=
  sides.count <<< (31 - sides.count.log2) - 1

def faceOf (sides : Sides) (word : UInt32) : Face :=
  UInt32.ofNat (1 + word.toNat * sides.count / 0x100000000)

def accepts (sides : Sides) (word : UInt32) : Bool :=
  word.toNat * sides.count % 0x100000000 ≤ sides.zone

/-- The face of the first accepted word among the next `attempts + 1` ones, or else of the last
of them. -/
def drawFrom {σ : Type} [WordSource σ] (sides : Sides) : Nat → σ → Face × σ
  | 0, source =>
    let (word, source) := WordSource.next source
    (sides.faceOf word, source)
  | attempts + 1, source =>
    let (word, source) := WordSource.next source
    if sides.accepts word then (sides.faceOf word, source) else sides.drawFrom attempts source

end Sides

structure Uniform (σ : Type) where
  source : σ

/-- As many words may be passed over as there are words: a source that runs through all of them
is never cut short. -/
instance {σ : Type} [WordSource σ] : Roller (Uniform σ) where
  draw sides roller :=
    let (face, source) := sides.drawFrom 0x100000000 roller.source
    (face, ⟨source⟩)

instance : WordSource StdGen where
  next gen :=
    let (word, gen) := randNat gen 0 0xffffffff
    (UInt32.ofNat word, gen)

end DiceCalculator
