import DiceCalculator.Text.Blank

/-!
# Scans

A scan takes something off the front of a text. These are the scans that the
symbols of a pattern are read with.
-/

namespace DiceCalculator

/-- What is taken off the front of a text, together with what is left of the text. -/
abbrev Scan := StateT (List Char) Option

namespace Scan

def next : Scan Char
  | [] => none
  | c :: rest => some (c, rest)

/-- Whether the text goes on with the character, which is then taken. -/
def accept (c : Char) : Scan Bool
  | [] => some (false, [])
  | d :: rest => if d = c then some (true, rest) else some (false, d :: rest)

/-- The characters before the first one that passes the test, and that one. -/
def through (test : Char → Bool) : Scan (List Char × Char)
  | [] => none
  | c :: rest =>
    if test c then some (([], c), rest)
    else (through test rest).map fun found => ((c :: found.1.1, found.1.2), found.2)

/-- Takes the white space and the comments that the text begins with. A comment goes from a number
sign to the end of the line; `comment` tells whether the text begins within one. -/
def skip (comment : Bool) : Scan Unit
  | [] => some ((), [])
  | c :: rest =>
    if comment then skip (c ≠ '\n') rest
    else if c = '#' then skip true rest
    else if Text.isBlankChar c then skip false rest
    else some ((), c :: rest)

/-- Takes white space and comments if they mean nothing. -/
def blanks (verbose : Bool) : Scan Unit :=
  if verbose then skip false else pure ()

end Scan

end DiceCalculator
