import DiceCalculator.Session
import DiceCalculator.Text.Blank

/-!
# The interactive loop

A prompt, a line, its answer, and again, until the input ends. Blank lines have
no answer. Input that is not UTF-8 ends the loop at the line that holds it.
-/

namespace DiceCalculator.Repl

def prompt : String :=
  "> "

/-- The line without its end: a line feed, and a carriage return right before it. Without a line
feed the line has no end to remove. -/
def withoutEnd (line : List Char) : List Char :=
  match line.reverse with
  | '\n' :: '\r' :: rest => rest.reverse
  | '\n' :: rest => rest.reverse
  | _ => line

/-- What is shown after a line, and the session afterwards. -/
def respond {σ : Type} [Roller σ] (session : Session σ) (line : String) :
    Logged (String × Session σ) := do
  let text := String.ofList (withoutEnd line.toList)
  if Text.isBlank text then return (prompt, session)
  let (answer, session) ← session.answer text
  return (answer ++ "\n" ++ prompt, session)

/-- The lines of the input with their line feeds; the last may lack one. -/
def lines : List UInt8 → List (List UInt8)
  | [] => []
  | byte :: rest =>
    if byte = 10 then [byte] :: lines rest
    else
      match lines rest with
      | [] => [[byte]]
      | line :: others => (byte :: line) :: others

/-- The first line with its line feed, and what follows it; none as long as there is no line
feed. -/
def firstLine? : List UInt8 → Option (List UInt8 × List UInt8)
  | [] => none
  | byte :: rest =>
    if byte = 10 then some ([byte], rest)
    else (firstLine? rest).map fun (line, later) => (byte :: line, later)

/-- A line as text, if it is UTF-8. -/
def textOf? (line : List UInt8) : Option String :=
  String.fromUTF8? ⟨line.toArray⟩

/-- The lines as text, up to the first that is not UTF-8. -/
def texts : List (List UInt8) → List String
  | [] => []
  | line :: rest =>
    match textOf? line with
    | none => []
    | some text => text :: texts rest

theorem lines_of_firstLine? {input line later : List UInt8}
    (h : firstLine? input = some (line, later)) : lines input = line :: lines later := by
  fun_induction firstLine? input generalizing line with
  | case1 => cases h
  | case2 =>
    cases h
    simp [lines]
  | case3 byte rest notFeed inductionHypothesis =>
    obtain ⟨⟨shorter, others⟩, read, found⟩ := Option.map_eq_some_iff.1 h
    cases found
    simp [lines, notFeed, inductionHypothesis read]

def responses {σ : Type} [Roller σ] (session : Session σ) : List String → Logged String
  | [] => return ""
  | line :: rest => do
    let (shown, session) ← respond session line
    return shown ++ (← responses session rest)

/-- All that is shown for an input. -/
def transcript {σ : Type} [Roller σ] (session : Session σ) (input : List UInt8) :
    Logged String := do
  return prompt ++ (← responses session (texts (lines input)))

end DiceCalculator.Repl
