import DiceCalculator.Pattern.Dialect
import DiceCalculator.Pattern.Size
import DiceCalculator.Text.Digit
import DiceCalculator.Text.Word

/-!
# The standard dialect

A backslash may precede any ASCII character that is neither a letter nor a
digit, and the letters of the six common controls. It also introduces classes of
characters and conditions on the place. Flags in parentheses are settings: they
hold up to the end of the group, or for the group that they open.

This is one dialect among others, and not the largest. It refuses classes that
are looked up by name, numeric escapes, letters without regard to case and
operations on character sets. What a pattern means in a group does not depend on
these, nor on anything else that a dialect does within a symbol.
-/

namespace DiceCalculator.Pattern

/-- The settings a pattern can make, and the names of its groups so far. -/
structure Settings where
  /-- Classes are those of all scripts and not of ASCII only. -/
  unicode : Bool := true
  /-- White space and comments mean nothing. -/
  verbose : Bool := false
  /-- A line is enough for the conditions on the beginning and the end. -/
  multiline : Bool := false
  /-- A carriage return ends a line too. -/
  returns : Bool := false
  /-- A dot takes all characters. -/
  dotAll : Bool := false
  /-- Repetitions are greedy exactly if a question mark follows. -/
  swapped : Bool := false
  names : List (List Char) := []
  deriving DecidableEq, Repr

namespace Settings

def flag? (settings : Settings) (on : Bool) : Char → Option Settings
  | 'u' => some { settings with unicode := on }
  | 'x' => some { settings with verbose := on }
  | 'm' => some { settings with multiline := on }
  | 'R' => some { settings with returns := on }
  | 's' => some { settings with dotAll := on }
  | 'U' => some { settings with swapped := on }
  | _ => none

/-- The settings with all flags of a row; those behind a hyphen are taken back. No flag may stand
there twice, and something has to stand behind the hyphen, of which there is only one. -/
def flags? (settings : Settings) (on : Bool) : List Char → Option Settings
  | [] => some settings
  | ['-'] => none
  | c :: rest => do
    if c ∈ rest then none
    else if c = '-' then flags? settings false rest
    else flags? (← settings.flag? on c) on rest

/-- The settings with one more name for a group. A name is in ASCII and begins with a letter or a
low line. -/
def named? (settings : Settings) (name : List Char) : Option Settings :=
  let isFirst := name.head?.any fun c => c.isAlpha || c = '_'
  let isName := name.all fun c => c.isAlphanum || c ∈ ['_', '.', '[', ']']
  if isFirst && isName && name ∉ settings.names then
    some { settings with names := name :: settings.names }
  else none

/-- What a dot takes. -/
def dot (settings : Settings) : Pattern :=
  if settings.dotAll then .one ⟨[], true⟩
  else if settings.returns then .one ⟨[('\n', '\n'), ('\r', '\r')], true⟩
  else .any

/-- What a circumflex accent asks for. -/
def beginning (settings : Settings) : Assertion :=
  if settings.multiline then .lineStart settings.returns else .start

/-- What a dollar sign asks for. -/
def ending (settings : Settings) : Assertion :=
  if settings.multiline then .lineStop settings.returns else .stop

end Settings

/-- A character of a written pattern: as it stands, or after a backslash. -/
inductive Glyph where
  | plain (c : Char)
  /-- A backslash and what makes up the character `c` together with it. -/
  | escaped (c : Char)
  /-- A backslash and what makes up a condition together with it. -/
  | condition (assertion : Assertion)
  /-- A backslash and what makes up a set of characters together with it. -/
  | set (set : CharSet)
  deriving DecidableEq, Repr

/-- The character a glyph stands for when nothing gives it another sense. -/
def Glyph.char? : Glyph → Option Char
  | .plain c | .escaped c => some c
  | .condition _ | .set _ => none

/-- What a glyph stands for outside of a set. -/
def Glyph.pattern : Glyph → Pattern
  | .plain c | .escaped c => .char c
  | .condition assertion => .assert assertion
  | .set chars => .one chars

section Classes

/-- A set that is all of ASCII, or is one of all scripts where these are asked for. -/
def classOf (unicode negated : Bool) (ascii all : List (Char × Char)) : Option Glyph :=
  if unicode then some (.set ⟨all, negated⟩)
  -- what is not in an ASCII class is not a character where only ASCII is known
  else if negated then none
  else some (.set ⟨ascii, false⟩)

def digitClass (unicode negated : Bool) : Option Glyph :=
  classOf unicode negated [('0', '9')]
    (Text.zeros.map fun first => (Char.ofNat first, Char.ofNat (first + 9)))

def blankClass (unicode negated : Bool) : Option Glyph :=
  classOf unicode negated [('\t', '\r'), (' ', ' ')]
    [('\t', '\r'), (' ', ' '), ('\u0085', '\u0085'), ('\u00a0', '\u00a0'), ('\u1680', '\u1680'),
      ('\u2000', '\u200a'), ('\u2028', '\u2029'), ('\u202f', '\u202f'), ('\u205f', '\u205f'),
      ('\u3000', '\u3000')]

def wordClass (unicode negated : Bool) : Option Glyph :=
  classOf unicode negated [('0', '9'), ('A', 'Z'), ('_', '_'), ('a', 'z')]
    (Text.wordRanges.map fun range => (Char.ofNat range.1, Char.ofNat range.2))

end Classes

/-- What a backslash and `c` stand for. -/
def unescape? (unicode : Bool) (c : Char) : Option Glyph :=
  match c with
  | 'a' => some (.escaped '\x07')
  | 't' => some (.escaped '\t')
  | 'n' => some (.escaped '\n')
  | 'v' => some (.escaped '\x0b')
  | 'f' => some (.escaped '\x0c')
  | 'r' => some (.escaped '\r')
  | 'd' => digitClass unicode false
  | 'D' => digitClass unicode true
  | 's' => blankClass unicode false
  | 'S' => blankClass unicode true
  | 'w' => wordClass unicode false
  | 'W' => wordClass unicode true
  | 'A' => some (.condition .start)
  | 'z' => some (.condition .stop)
  | 'b' => some (.condition (.word .either !unicode))
  | 'B' => some (.condition (.word .neither !unicode))
  | '<' => some (.condition (.word .start !unicode))
  | '>' => some (.condition (.word .stop !unicode))
  | c => if c.toNat < 128 && !c.isAlphanum then some (.escaped c) else none

section Braces

/-- What is written up to the closing brace, without blanks and comments if these mean nothing;
`comment` tells whether the text begins within a comment. -/
def braced (verbose comment : Bool) : Scan (List Char)
  | [] => none
  | c :: text =>
    if comment then braced verbose (c ≠ '\n') text
    else if c = '\x7d' then some ([], text)
    else if verbose && c = '#' then braced verbose true text
    else if verbose && Text.isBlankChar c then braced verbose false text
    else (braced verbose false text).map fun found => (c :: found.1, found.2)

/-- The kind of word edge with the name. -/
def edge? (name : List Char) : Option WordEdge :=
  match String.ofList name with
  | "start" => some .start
  | "end" => some .stop
  | "start-half" => some .startHalf
  | "end-half" => some .stopHalf
  | _ => none

/-- The decimal number below `2 ^ 32` that is written here, with blanks around it. -/
def count? (written : List Char) : Option Nat :=
  let digits := (written.dropWhile Text.isBlankChar).takeWhile Char.isDigit
  let rest := (written.dropWhile Text.isBlankChar).dropWhile Char.isDigit
  let n := Nat.ofDigitChars 10 digits 0
  if digits = [] || !rest.all Text.isBlankChar || 0x100000000 ≤ n then none else some n

/-- The bounds of a repetition, as they are written. -/
def bounds? (written : List Char) : Option (Nat × Option Nat) :=
  match written.dropWhile (· ≠ ',') with
  | [] => (count? written).map fun n => (n, some n)
  | _ :: after => do
    let least ← count? (written.takeWhile (· ≠ ','))
    if after = [] then return (least, none)
    else
      let most ← count? after
      if least ≤ most then return (least, some most) else none

end Braces

section Sets

/-- Whether a set member that begins with these glyphs would be an operation on sets or a set
within the set. -/
def isSetOperation : Glyph → List Glyph → Bool
  | .plain '[', _ => true
  | .plain '&', .plain '&' :: _ => true
  | .plain '-', .plain '-' :: _ => true
  | .plain '~', .plain '~' :: _ => true
  | _, _ => false

def range? (low high : Glyph) : Option (Char × Char) := do
  let first ← low.char?
  let last ← high.char?
  if first ≤ last then some (first, last) else none

/-- The ranges of the characters that a single member of a set stands for. -/
def member? : Glyph → Option (List (Char × Char))
  | .set set => some set.normal.ranges
  | glyph => (range? glyph glyph).map ([·])

/-- The ranges of a character set. A hyphen at the end stands for itself. -/
def members? : List Glyph → Option (List (Char × Char))
  | [] => some []
  | [low, .plain '-'] => do
    if isSetOperation low [.plain '-'] then none
    else return (← member? low) ++ [('-', '-')]
  | low :: .plain '-' :: high :: rest => do
    if isSetOperation low (.plain '-' :: high :: rest) || high = .plain '-' then none
    else return (← range? low high) :: (← members? rest)
  | glyph :: rest => do
    if isSetOperation glyph rest then none
    else return (← member? glyph) ++ (← members? rest)

/-- The set of the glyphs that are written between brackets, behind a bracket that stands for
itself if `bracket` says so. Without one, hyphens at the beginning stand for themselves. Where only
ASCII is known, the set has to be one of ASCII characters. -/
def charSet? (unicode negated bracket : Bool) (written : List Glyph) : Option CharSet := do
  let hyphens := if bracket then [] else written.takeWhile (· = .plain '-')
  let members ← members? (written.drop hyphens.length)
  let leading := if bracket then [(']', ']')] else hyphens.map fun _ => ('-', '-')
  let ranges := leading ++ members
  if !unicode && (negated || ranges.any fun range => 128 ≤ range.2.toNat) then none
  else return ⟨ranges, negated⟩

/-- What the text of a set goes on with: the set, a comment in it, or what follows a backslash. -/
inductive Within where
  | set
  | comment
  | escape
  deriving DecidableEq

/-- The glyphs of a set up to its closing bracket. -/
def setGlyphs (settings : Settings) : Within → Scan (List Glyph)
  | _, [] => none
  | .comment, c :: text => setGlyphs settings (if c = '\n' then .set else .comment) text
  | .escape, c :: text => do
    let glyph ← unescape? settings.unicode c
    (setGlyphs settings .set text).map fun found => (glyph :: found.1, found.2)
  | .set, c :: text =>
    if c = ']' then some ([], text)
    else if c = '\\' then setGlyphs settings .escape text
    else if settings.verbose && c = '#' then setGlyphs settings .comment text
    else if settings.verbose && Text.isBlankChar c then setGlyphs settings .set text
    else (setGlyphs settings .set text).map fun found => (.plain c :: found.1, found.2)

end Sets

section Symbols

open Scan

variable (settings : Settings)

def greediness : Scan Bool :=
  return (← accept '?') == settings.swapped

def repetition (least : Nat) (most : Option Nat) : Scan Symbol :=
  return .repetition least most (← greediness settings)

/-- The bounds of a repetition that are written like this between braces. -/
def boundsOf (written : List Char) : Scan (Nat × Option Nat) := do
  let bounds ← (bounds? written : Option _)
  blanks settings.verbose
  return bounds

/-- A set in brackets, after the opening one. A closing bracket may be its first member. -/
def bracketed : Scan Symbol := do
  blanks settings.verbose
  let negated ← accept '^'
  blanks settings.verbose
  let bracket ← accept ']'
  let written ← setGlyphs settings .set
  return .item (.one (← (charSet? settings.unicode negated bracket written : Option _)))

/-- A backslash and what follows it. A kind of word edge may be named between braces, where the
bounds of a repetition may stand as well. -/
def escape : Scan Symbol := do
  let c ← next
  let glyph ← (unescape? settings.unicode c : Option _)
  if c ≠ 'b' then return .item glyph.pattern
  else if !(← accept '\x7b') then return .item glyph.pattern
  else
    let written ← braced settings.verbose false
    match edge? written with
    | some edge => return .item (.assert (.word edge !settings.unicode))
    | none =>
      let (least, most) ← boundsOf settings written
      return .item (.many least most (← greediness settings) glyph.pattern)

/-- A numbered group with a name, after the angle bracket that begins the name. -/
def namedGroup : Scan (Symbol × Settings) := do
  let (name, _) ← through (· = '>')
  return (.opening true, ← (settings.named? name : Option _))

/-- Flags for a group if a colon follows, and otherwise for what comes after them. -/
def flagged : Scan (Symbol × Settings) := do
  let (written, mark) ← through fun c => c = ':' || c = ')'
  if mark = ':' then
    return (.opening false, ← (settings.flags? true written : Option _))
  else if written = [] then failure
  else return (.item .empty, ← (settings.flags? true written : Option _))

/-- An opening parenthesis and what belongs to it. -/
def opening : Scan (Symbol × Settings) := do
  blanks settings.verbose
  if !(← accept '?') then return (.opening true, settings)
  else if ← accept '<' then namedGroup settings
  else if ← accept 'P' then
    if ← accept '<' then namedGroup settings else failure
  else flagged settings

/-- The symbol that begins with the character, and the settings after it. -/
def symbol (c : Char) : Scan (Symbol × Settings) :=
  match c with
  | '(' => opening settings
  | ')' => return (.closing, settings)
  | '|' => return (.bar, settings)
  | '*' => return (← repetition settings 0 none, settings)
  | '+' => return (← repetition settings 1 none, settings)
  | '?' => return (← repetition settings 0 (some 1), settings)
  | '\x7b' => do
    let (least, most) ← boundsOf settings (← braced settings.verbose false)
    return (← repetition settings least most, settings)
  | '[' => return (← bracketed settings, settings)
  | '\\' => return (← escape settings, settings)
  | '.' =>
    if settings.unicode then return (.item settings.dot, settings) else failure
  | '^' => return (.item (.assert settings.beginning), settings)
  | '$' => return (.item (.assert settings.ending), settings)
  | c =>
    if settings.verbose && (c = '#' || Text.isBlankChar c) then do
      skip (c = '#')
      return (.blank, settings)
    else return (.item (.char c), settings)

def lexeme : Scan (Symbol × Settings) := do
  symbol settings (← next)

end Symbols

/-- The dialect in which token rules are written. -/
def standard : Dialect where
  Mode := Settings
  start := {}
  lexeme := lexeme
  resume before inner := { before with names := inner.names }
  fits := fits

end DiceCalculator.Pattern
