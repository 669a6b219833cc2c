import DiceCalculator.Repl
import DiceCalculator.Roll.Uniform

/-!
# The command line

Reads lines from standard input and answers each on standard output.
-/

namespace DiceCalculator.Repl

def display (shown : String) : IO Unit := do
  IO.print shown
  (← IO.getStdout).flush

/-- Answers one line after another, first those among the bytes read already, until the input
ends or a line is not UTF-8. -/
partial def answerLines (session : Session (Uniform StdGen)) (bytes : List UInt8) : IO Unit := do
  match firstLine? bytes with
  | some (line, later) =>
    let some text := textOf? line | return
    let (shown, session) := (respond session text).result
    display shown
    answerLines session later
  | none =>
    let more ← (← IO.getStdin).read 4096
    if more.isEmpty then
      display (responses session (texts (lines bytes))).result
    else
      answerLines session (bytes ++ more.toList)

end DiceCalculator.Repl

open DiceCalculator

/-- The interactive loop with a generator seeded by the system. -/
def main : IO Unit := do
  let seed := (← IO.getRandomBytes 8).foldl (fun seed byte => seed * 256 + byte.toNat) 0
  Repl.display Repl.prompt
  Repl.answerLines (.start {} ⟨mkStdGen seed⟩) []
