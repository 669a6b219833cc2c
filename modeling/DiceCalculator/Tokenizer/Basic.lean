import DiceCalculator.Pattern.Matching
import DiceCalculator.Pattern.Standard
import DiceCalculator.Text.Quoted
import DiceCalculator.Token

/-!
# Tokenizers

A tokenizer is a table of token rules. It cuts the text from left to right: at
each place the first rule of the table that takes at least one character wins,
whatever a later rule would take. White space is cut like any other piece and
then left out.
-/

namespace DiceCalculator

structure TokenRule where
  pattern : Pattern
  kind : Token.Kind
  deriving DecidableEq

/-- A table of token rules, the first of which is tried first. -/
structure Tokenizer where
  rules : List TokenRule := []
  deriving DecidableEq

structure LexError where
  rest : String
  deriving DecidableEq, Repr

def LexError.message (error : LexError) : String :=
  "no token rule matches the input starting at " ++ Text.quoted error.rest

namespace Tokenizer

/-- Registers a rule, tried after all others, for a pattern that has to match at the start. The
pattern and the group around it are compiled as one text. A text that is refused leaves the table as
it is. -/
def addRule {ε : Type} (compile : String → Except ε Pattern) (tokenizer : Tokenizer)
    (pattern : String) (kind : Token.Kind) : Except ε Unit × Tokenizer :=
  match compile ("^(?:" ++ pattern ++ ")") with
  | .ok pattern => (.ok (), ⟨tokenizer.rules ++ [⟨pattern, kind⟩]⟩)
  | .error error => (.error error, tokenizer)

section AddRule

variable {ε : Type} {compile : String → Except ε Pattern} {tokenizer : Tokenizer}
  {pattern : String} {kind : Token.Kind}

theorem addRule_of_ok {compiled : Pattern}
    (accepted : compile ("^(?:" ++ pattern ++ ")") = .ok compiled) :
    tokenizer.addRule compile pattern kind =
      (.ok (), ⟨tokenizer.rules ++ [⟨compiled, kind⟩]⟩) := by
  rw [addRule, accepted]

theorem addRule_of_error {error : ε} (refused : compile ("^(?:" ++ pattern ++ ")") = .error error) :
    tokenizer.addRule compile pattern kind = (.error error, tokenizer) := by
  rw [addRule, refused]

theorem addRule_eq_ok_iff : (tokenizer.addRule compile pattern kind).1 = .ok () ↔
    ∃ compiled, compile ("^(?:" ++ pattern ++ ")") = .ok compiled := by
  cases result : compile ("^(?:" ++ pattern ++ ")") with
  | ok compiled => simp [addRule_of_ok result]
  | error error => simp [addRule_of_error result]

end AddRule

/-- The tokenizer with one more rule in the standard dialect, if the pattern text is not refused. -/
def add? (tokenizer : Tokenizer) (pattern : String) (kind : Token.Kind) : Option Tokenizer :=
  match tokenizer.addRule Pattern.standard.compile pattern kind with
  | (.ok (), larger) => some larger
  | (.error _, _) => none

/-- The kind of the piece that the text begins with, and how many characters follow its first. -/
def next? (tokenizer : Tokenizer) (text : List Char) : Option (Token.Kind × Nat) :=
  tokenizer.rules.findSome? fun rule =>
    match rule.pattern.matchEnd? text with
    | some (more + 1) => some (rule.kind, more)
    | _ => none

/-- The pieces of the text, white space included. -/
def pieces (tokenizer : Tokenizer) : List Char → Except LexError (List Token)
  | [] => .ok []
  | c :: rest =>
    match tokenizer.next? (c :: rest) with
    | none => .error ⟨String.ofList (c :: rest)⟩
    | some (kind, more) =>
      (tokenizer.pieces (rest.drop more)).map
        (⟨kind, String.ofList (c :: rest.take more)⟩ :: ·)
termination_by text => text.length
decreasing_by
  simp only [List.length_drop, List.length_cons]
  omega

def tokenize (tokenizer : Tokenizer) (text : String) : Except LexError (List Token) :=
  (tokenizer.pieces text.toList).map fun pieces =>
    pieces.filter (·.kind ≠ .whitespace)

end Tokenizer

end DiceCalculator
