/-!
# Listings

Items in a row, with a comma and a space between neighbours.
-/

namespace DiceCalculator.Text

/-- The items with `", "` between neighbours. -/
def commaSeparated : List String → String
  | [] => ""
  | [item] => item
  | item :: next :: rest => item ++ ", " ++ commaSeparated (next :: rest)

def bracketed (items : List String) : String :=
  "[" ++ commaSeparated items ++ "]"

end DiceCalculator.Text
