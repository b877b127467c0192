/-!
# Double-precision numbers as bit patterns

Thresholds, ratios and rates are IEEE 754 binary64 numbers. A number is kept as its 64-bit
pattern and every operation is exact integer arithmetic followed by one rounding, so that each
result can be computed by the kernel and reasoned about with the lemmas of `Nat` and `Int`.

A finite number has the value `scaled * 2 ^ -1074`: the smallest positive number is the unit, and
`scaled` is an integer. Rounding takes a quotient of two naturals, counted in that unit.

## Main definitions

* `Binary64.scaled`: the exact value of a finite number, counted in units of `2 ^ -1074`.
* `Binary64.ofQuotient`: the nearest number to a quotient, a tie going to the even pattern.
* `add`, `mul`, `div`, `pow`: the exact result, rounded.
* `lt`, `le`, `eq`: comparison of values; a NaN compares with nothing.
-/

namespace TrigramSearch

/-- An IEEE 754 binary64 number, given by its bit pattern. -/
structure Binary64 where
  bits : UInt64
deriving DecidableEq, Inhabited

namespace Binary64

/-! ## Fields of the pattern -/

/-- The pattern as a natural number. -/
def word (x : Binary64) : Nat := x.bits.toNat

/-- The sign bit; it is set for negative numbers and for `-0`. -/
def signBit (x : Binary64) : Bool := x.word.testBit 63

/-- The pattern without its sign bit. -/
def body (x : Binary64) : Nat := x.word % (1 <<< 63)

/-- The body of the infinities; a larger body is a NaN. -/
def infinityBody : Nat := 0x7ff0000000000000

def isNaN (x : Binary64) : Bool := infinityBody < x.body

def isInfinite (x : Binary64) : Bool := x.body == infinityBody

def isFinite (x : Binary64) : Bool := x.body < infinityBody

/-- The magnitude that a body stands for, in units of `2 ^ -1074`. The formula is monotone and
goes on past the largest finite number, where it gives `2 ^ 1024`. -/
def magnitudeOfBody (b : Nat) : Nat :=
  if b < 1 <<< 52 then b else (1 <<< 52 + b % (1 <<< 52)) <<< (b / (1 <<< 52) - 1)

def magnitude (x : Binary64) : Nat := magnitudeOfBody x.body

/-- The value of a finite number, in units of `2 ^ -1074`. -/
def scaled (x : Binary64) : Int :=
  if x.signBit then -(x.magnitude : Int) else x.magnitude

/-! ## Making numbers -/

/-- The number with the given sign and body. -/
def ofBody (negative : Bool) (b : Nat) : Binary64 :=
  ⟨UInt64.ofNat (if negative then 1 <<< 63 + b else b)⟩

def zero : Binary64 := ⟨0⟩
def one : Binary64 := ⟨0x3ff0000000000000⟩
def infinity : Binary64 := ⟨0x7ff0000000000000⟩
/-- The quiet NaN that arithmetic produces. -/
def nan : Binary64 := ⟨0x7ff8000000000000⟩

def neg (x : Binary64) : Binary64 := ofBody (!x.signBit) x.body

/-- The body of the number nearest to `num / den` units; a tie goes to the even body, and a
quotient beyond the largest finite number gives the infinity. -/
def bodyOfQuotient (num den : Nat) : Nat :=
  let shift := Nat.log2 (num / den) - 52
  let unit := den <<< shift
  let low := num / unit
  let rest := 2 * (num % unit)
  let significand := if unit < rest || (rest == unit && low % 2 == 1) then low + 1 else low
  min (shift <<< 52 + significand) infinityBody

/-- The number nearest to `num / den` units of `2 ^ -1074`, with the given sign. -/
def ofQuotient (negative : Bool) (num den : Nat) : Binary64 :=
  ofBody negative (bodyOfQuotient num den)

/-- The number nearest to a natural number. -/
def ofNat (n : Nat) : Binary64 := ofQuotient false (n <<< 1074) 1

/-- The number nearest to an integer. -/
def ofInt (i : Int) : Binary64 := ofQuotient (i < 0) (i.natAbs <<< 1074) 1

/-- The number nearest to `±digits * 10 ^ exponent`. -/
def ofDecimal (negative : Bool) (digits : Nat) (exponent : Int) : Binary64 :=
  if digits = 0 then ofBody negative 0
  else if exponent > 400 then ofBody negative infinityBody
  else if exponent + digits.log2 < -400 then ofBody negative 0
  else if exponent ≥ 0 then ofQuotient negative ((digits * Nat.pow 10 exponent.toNat) <<< 1074) 1
  else ofQuotient negative (digits <<< 1074) (Nat.pow 10 (-exponent).toNat)

/-! ## Arithmetic -/

def add (x y : Binary64) : Binary64 :=
  if x.isNaN || y.isNaN then nan
  else if x.isInfinite then
    if y.isInfinite && x.signBit != y.signBit then nan else x
  else if y.isInfinite then y
  else
    let sum := x.scaled + y.scaled
    if sum = 0 then ofBody (x.signBit && y.signBit) 0
    else ofQuotient (sum < 0) sum.natAbs 1

def mul (x y : Binary64) : Binary64 :=
  let sign := x.signBit != y.signBit
  if x.isNaN || y.isNaN then nan
  else if x.isInfinite || y.isInfinite then
    if x.body = 0 || y.body = 0 then nan else ofBody sign infinityBody
  else ofQuotient sign (x.magnitude * y.magnitude) (1 <<< 1074)

def div (x y : Binary64) : Binary64 :=
  let sign := x.signBit != y.signBit
  if x.isNaN || y.isNaN then nan
  else if x.isInfinite then
    if y.isInfinite then nan else ofBody sign infinityBody
  else if y.isInfinite then ofBody sign 0
  else if y.body = 0 then
    if x.body = 0 then nan else ofBody sign infinityBody
  else ofQuotient sign (x.magnitude <<< 1074) y.magnitude

/-- Repeated squaring: the bits of `k` are used from the lowest, `r` collects the product. -/
def powLoop : Nat → Nat → Binary64 → Binary64 → Binary64
  | 0, _, _, r => r
  | fuel + 1, k, a, r =>
    let r := if k % 2 = 1 then r.mul a else r
    if k / 2 = 0 then r else powLoop fuel (k / 2) (a.mul a) r

/-- Integer power by repeated squaring, each product rounded; a negative power is the reciprocal
of the positive one. -/
def pow (x : Binary64) (k : Int) : Binary64 :=
  let r := powLoop (k.natAbs.log2 + 1) k.natAbs x one
  if k < 0 then one.div r else r

/-! ## Comparison -/

def lt (x y : Binary64) : Bool :=
  !x.isNaN && !y.isNaN && decide (x.scaled < y.scaled)

def le (x y : Binary64) : Bool :=
  !x.isNaN && !y.isNaN && decide (x.scaled ≤ y.scaled)

/-- Equality of values: the two zeros are equal, a NaN is not equal to itself. -/
def eq (x y : Binary64) : Bool :=
  !x.isNaN && !y.isNaN && decide (x.scaled = y.scaled)

/-- The nearest integer, a half going away from zero; `none` for a number that is not finite. -/
def roundToInt? (x : Binary64) : Option Int :=
  if x.isFinite then
    let n := (2 * x.magnitude + 1 <<< 1074) / (1 <<< 1075)
    some (if x.signBit then -(n : Int) else n)
  else none

end Binary64
end TrigramSearch
