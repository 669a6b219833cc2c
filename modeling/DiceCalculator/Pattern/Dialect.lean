import DiceCalculator.Pattern.Normal
import DiceCalculator.Pattern.Scan

/-!
# Dialects of patterns

How a pattern is written is a matter of its dialect. A dialect says which symbol
a text begins with; this may depend on settings that the pattern makes for what
comes after them, up to the end of the group in which they stand. It also says
which patterns are too large.

The symbols are put together from left to right. Each open parenthesis has a
layer that holds the branches finished so far and the items of the branch at
hand; a closing one turns its layer into an item of the layer around it.
-/

namespace DiceCalculator.Pattern

/-- What a written pattern is made of. -/
inductive Symbol where
  /-- A part that stands by itself. One that takes nothing is a setting and cannot be repeated. -/
  | item (pattern : Pattern)
  /-- An opening parenthesis, which is numbered unless it says otherwise. -/
  | opening (numbered : Bool)
  | closing
  | bar
  /-- A repetition of the item before it. -/
  | repetition (least : Nat) (most : Option Nat) (greedy : Bool)
  /-- White space or a comment, where these mean nothing. -/
  | blank
  deriving DecidableEq, Repr

/-- A way to write patterns. -/
structure Dialect where
  /-- The settings that are in force, and what else there is to remember. -/
  Mode : Type
  /-- The mode in which a pattern begins. -/
  start : Mode
  /-- Takes the symbol that a text begins with, and gives the mode in which to read on. -/
  lexeme : Mode → Scan (Symbol × Mode)
  /-- The mode behind a group, from the one before the group and the one at its end. -/
  resume : Mode → Mode → Mode
  /-- Whether a written pattern keeps to the limits. -/
  fits : Pattern → Bool

/-- What has been read between a parenthesis and here, the newest first. -/
structure Layer where
  /-- Whether the parenthesis is numbered. -/
  numbered : Bool := false
  /-- The branches before the bar that was read last. -/
  branches : List Pattern := []
  /-- The items since then. -/
  items : List Pattern := []
  deriving DecidableEq

namespace Layer

/-- The branch at hand as one pattern. -/
def branch (layer : Layer) : Pattern :=
  inTurn layer.items.reverse

/-- The whole layer as one pattern. -/
def pattern (layer : Layer) : Pattern :=
  match (layer.branch :: layer.branches).reverse with
  | [] => .empty
  | first :: others => anyOf first others

/-- The layer with one item more. -/
def add (layer : Layer) (item : Pattern) : Layer :=
  { layer with items := item :: layer.items }

end Layer

/-- What has been read so far: the innermost layer, and those around it from the inside out, each
with the mode in which the group within it was opened. -/
structure Draft (Mode : Type) where
  mode : Mode
  layer : Layer := {}
  outer : List (Layer × Mode) := []

namespace Dialect

variable (dialect : Dialect)

/-- Takes up one symbol. A closing parenthesis needs an open one, a repetition an item. -/
def take? (draft : Draft dialect.Mode) (symbol : Symbol) (mode : dialect.Mode) :
    Option (Draft dialect.Mode) :=
  match symbol with
  | .item pattern => some { draft with mode, layer := draft.layer.add pattern }
  | .opening numbered => some ⟨mode, { numbered }, (draft.layer, draft.mode) :: draft.outer⟩
  | .closing =>
    match draft.outer with
    | [] => none
    | (around, before) :: outer =>
      let group := .group draft.layer.numbered draft.layer.pattern
      some ⟨dialect.resume before mode, around.add group, outer⟩
  | .bar =>
    let branches := draft.layer.branch :: draft.layer.branches
    some { draft with mode, layer := { draft.layer with branches, items := [] } }
  | .repetition least most greedy =>
    match draft.layer.items with
    | [] | .empty :: _ => none
    | item :: items =>
      some { draft with mode, layer.items := .many least most greedy item :: items }
  | .blank => some { draft with mode }

/-- Takes up all that the text spells. -/
def read? (draft : Draft dialect.Mode) (text : List Char) : Option (Draft dialect.Mode) :=
  if text = [] then some draft
  else
    match dialect.lexeme draft.mode text with
    | none => none
    | some ((symbol, mode), rest) =>
      if _shorter : rest.length < text.length then
        (dialect.take? draft symbol mode).bind fun draft => read? draft rest
      else none
termination_by text.length

/-- The draft of a pattern before anything is read. -/
def outset : Draft dialect.Mode :=
  ⟨dialect.start, {}, []⟩

/-- The pattern that has been read, if every open parenthesis was closed. -/
def finish? (draft : Draft dialect.Mode) : Option Pattern :=
  if draft.outer.isEmpty then some draft.layer.pattern else none

/-- The pattern that the text spells by itself, as it is written and however large. -/
def spelled? (text : String) : Option Pattern :=
  (dialect.read? dialect.outset text.toList).bind dialect.finish?

end Dialect

/-- Why a text is refused. -/
inductive Refusal where
  | malformed
  | beyondLimits
  deriving DecidableEq, Repr

/-- The pattern that a text spells, in the form in which it is matched. -/
def Dialect.compile (dialect : Dialect) (text : String) : Except Refusal Pattern :=
  match dialect.spelled? text with
  | none => .error .malformed
  | some written => if dialect.fits written then .ok written.normal else .error .beyondLimits

theorem Dialect.compile_eq_ok_iff {dialect : Dialect} {text : String} {pattern : Pattern} :
    dialect.compile text = .ok pattern ↔
      ∃ written, dialect.spelled? text = some written ∧ dialect.fits written = true ∧
        written.normal = pattern := by
  rw [compile]
  cases dialect.spelled? text with
  | none => simp
  | some written => by_cases fits : dialect.fits written = true <;> simp [fits]

end DiceCalculator.Pattern
