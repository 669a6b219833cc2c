/-!
# Encoded ranges of characters

In UTF-8 a character takes one to four bytes: a lead byte, which tells how many
follow, and following bytes with six bits each. The characters of a range have
encodings that fall into few boxes, a box being a sequence of byte ranges. The
boxes of a range are listed in order and do not overlap.
-/

namespace DiceCalculator.Text

abbrev ByteRange := Nat × Nat

/-- The boxes of the numbers from `low` to `high`, spelled with a lead of any size, which is
raised by `mark`, and `n` digits of six bits. -/
def boxes (mark : Nat) : Nat → Nat → Nat → List (List ByteRange)
  | 0, low, high => [[(mark + low, mark + high)]]
  | n + 1, low, high =>
    let unit := 64 ^ (n + 1)
    let led (lead : Nat) (rest : List ByteRange) := (mark + lead, mark + lead) :: rest
    if low / unit = high / unit then
      (boxes 0x80 n (low % unit) (high % unit)).map (led (low / unit))
    else
      let cutLow := low % unit ≠ 0
      let cutHigh := high % unit ≠ unit - 1
      let first := if cutLow then low / unit + 1 else low / unit
      let past := if cutHigh then high / unit else high / unit + 1
      (if cutLow then (boxes 0x80 n (low % unit) (unit - 1)).map (led (low / unit)) else []) ++
        (if first < past then
          [(mark + first, mark + past - 1) :: List.replicate (n + 1) (0x80, 0xbf)] else []) ++
        (if cutHigh then (boxes 0x80 n 0 (high % unit)).map (led (high / unit)) else [])

/-- The code points that take one byte and so on, with what raises the lead and how many bytes
follow. Surrogates have no encoding. -/
def lengths : List (Nat × Nat × Nat × Nat) :=
  [(0, 0x7f, 0, 0), (0x80, 0x7ff, 0xc0, 1), (0x800, 0xd7ff, 0xe0, 2), (0xe000, 0xffff, 0xe0, 2),
    (0x10000, 0x10ffff, 0xf0, 3)]

/-- The boxes of a range of characters. -/
def encoded (range : Char × Char) : List (List ByteRange) :=
  lengths.flatMap fun (low, high, mark, following) =>
    let first := max low range.1.toNat
    let last := min high range.2.toNat
    if first ≤ last then boxes mark following first last else []

end DiceCalculator.Text
