import DiceCalculator.Roll.Roller

/-!
# Recorded rollers

A roller that keeps what it was asked for and what it gave. Its faces are those
of the roller within, so recording changes no outcome.
-/

namespace DiceCalculator

structure Draw where
  sides : Sides
  face : Face
  deriving DecidableEq

/-- A roller and what it gave so far, the newest first. -/
structure Recorded (σ : Type) where
  roller : σ
  given : List Draw := []

namespace Recorded

variable {σ : Type}

def draws (recorded : Recorded σ) : List Draw :=
  recorded.given.reverse

instance [Roller σ] : Roller (Recorded σ) where
  draw sides recorded :=
    let (face, roller) := Roller.draw sides recorded.roller
    (face, ⟨roller, ⟨sides, face⟩ :: recorded.given⟩)

theorem draws_draw [Roller σ] (sides : Sides) (recorded : Recorded σ) :
    (Roller.draw sides recorded).2.draws =
      recorded.draws ++ [⟨sides, (Roller.draw sides recorded.roller).1⟩] :=
  List.reverse_cons

end Recorded

end DiceCalculator
