/-!
# Values

The calculator's numbers are whole numbers of 64 signed bits. No operation
wraps around or fails: a result outside the range becomes the bound it has
passed. Each operation is therefore the one on `Int` followed by `Value.clamp`.
-/

namespace DiceCalculator

/-- A whole number between `-2 ^ 63` and `2 ^ 63 - 1`. -/
@[ext]
structure Value where
  toInt : Int
  least_le : -0x8000000000000000 ≤ toInt := by decide
  le_greatest : toInt ≤ 0x7fffffffffffffff := by decide
  deriving DecidableEq

namespace Value

def least : Value :=
  { toInt := -0x8000000000000000 }

def greatest : Value :=
  { toInt := 0x7fffffffffffffff }

def clamp (n : Int) : Value where
  toInt := max (-0x8000000000000000) (min 0x7fffffffffffffff n)
  least_le := by omega
  le_greatest := by omega

theorem toInt_clamp (n : Int) : (clamp n).toInt = max (-0x8000000000000000) (min 0x7fffffffffffffff n) :=
  rfl

theorem toInt_clamp_of_mem {n : Int} (lower : -0x8000000000000000 ≤ n)
    (upper : n ≤ 0x7fffffffffffffff) :
    (clamp n).toInt = n := by
  rw [toInt_clamp]
  omega

@[simp]
theorem clamp_toInt (a : Value) : clamp a.toInt = a := by
  have := a.least_le
  have := a.le_greatest
  ext
  rw [toInt_clamp]
  omega

instance (n : Nat) : OfNat Value n :=
  ⟨clamp n⟩

instance : Inhabited Value :=
  ⟨0⟩

instance : Add Value :=
  ⟨fun a b => clamp (a.toInt + b.toInt)⟩

instance : Mul Value :=
  ⟨fun a b => clamp (a.toInt * b.toInt)⟩

instance : Neg Value :=
  ⟨fun a => clamp (-a.toInt)⟩

/-- The quotient without its fraction. By zero it is the bound on the dividend's side, or zero
for zero. -/
instance : Div Value :=
  ⟨fun a b =>
    if b.toInt = 0 then
      if 0 < a.toInt then greatest else if a.toInt < 0 then least else 0
    else clamp (a.toInt.tdiv b.toInt)⟩

theorem add_eq (a b : Value) : a + b = clamp (a.toInt + b.toInt) :=
  rfl

theorem mul_eq (a b : Value) : a * b = clamp (a.toInt * b.toInt) :=
  rfl

theorem neg_eq (a : Value) : -a = clamp (-a.toInt) :=
  rfl

theorem div_eq_of_ne_zero {a b : Value} (h : b.toInt ≠ 0) :
    a / b = clamp (a.toInt.tdiv b.toInt) :=
  if_neg h

theorem div_eq_of_eq_zero {a b : Value} (h : b.toInt = 0) :
    a / b = if 0 < a.toInt then greatest else if a.toInt < 0 then least else 0 :=
  if_pos h

/-- The decimal digits, after a minus sign if the value is negative. -/
def display (a : Value) : String :=
  a.toInt.repr

end Value

/-- What an expression comes to: one value or more. -/
@[ext]
structure Values where
  first : Value
  others : List Value := []
  deriving DecidableEq

namespace Values

def toList (values : Values) : List Value :=
  values.first :: values.others

def single (a : Value) : Values :=
  { first := a }

instance : Append Values :=
  ⟨fun a b => { first := a.first, others := a.others ++ b.toList }⟩

@[simp]
theorem toList_append (a b : Values) : (a ++ b).toList = a.toList ++ b.toList :=
  rfl

@[simp]
theorem toList_single (a : Value) : (single a).toList = [a] :=
  rfl

theorem toList_inj {a b : Values} : a.toList = b.toList ↔ a = b := by
  simp [toList, Values.ext_iff]

end Values

end DiceCalculator
