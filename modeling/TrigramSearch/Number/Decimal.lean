import TrigramSearch.Number.Binary64

/-!
# Decimal text of binary numbers

The text of a number carries the fewest digits that read back as the same number, and of those
digits the nearest. The digits are found on decimal grids: a finite positive number `x` is the
nearest number to every real between its two half-way points (the points themselves belong to it
when its pattern is even). Going from coarse grids to fine ones, the first grid with a point in
that interval gives the fewest digits, and one of the two grid points beside `x` is the nearest.

## Main definitions

* `Binary64.shortest`: the digits and the exponent of the shortest decimal.
* `Binary64.toPositional`: digits and a point only, whatever the size.
* `Binary64.toJsonText`: positional for moderate sizes, with an exponent otherwise.
* `Binary64.toFixed`: a fixed number of places after the point.
-/

namespace TrigramSearch

/-- The number `digits * 10 ^ exponent`. -/
structure Decimal where
  digits : Nat
  exponent : Int
deriving DecidableEq, Inhabited

namespace Decimal

/-- The decimal digits of a natural number, from the highest. -/
def digitsOf (n : Nat) : List Char := Nat.toDigits 10 n

/-- Where the point stands, counted from the left end of the digits. -/
def pointPosition (d : Decimal) : Int := (digitsOf d.digits).length + d.exponent

/-- The digits of the whole part and of the part after the point, without an exponent. -/
def split (d : Decimal) : List Char × List Char :=
  let ds := digitsOf d.digits
  let point := d.pointPosition
  if 0 ≤ d.exponent then (ds ++ List.replicate d.exponent.toNat '0', [])
  else if 0 < point then (ds.take point.toNat, ds.drop point.toNat)
  else (['0'], List.replicate (-point).toNat '0' ++ ds)

end Decimal

namespace Binary64

/-! ## The shortest digits -/

/-- A point of the grid of multiples of `10 ^ exponent` that reads back as the number with the
body `b`, the nearer one if both neighbours do. -/
def gridPoint? (b : Nat) (exponent : Int) : Option Nat :=
  let up := Nat.pow 10 exponent.toNat
  let down := Nat.pow 10 (-exponent).toNat
  let value := 2 * magnitudeOfBody b * down
  let low := (magnitudeOfBody (b - 1) + magnitudeOfBody b) * down
  let high := (magnitudeOfBody b + magnitudeOfBody (b + 1)) * down
  let step := up <<< 1075
  let closed := b % 2 == 0
  let below := value / step
  let above := below + 1
  let hitBelow := low < below * step || (closed && low == below * step)
  let hitAbove := above * step < high || (closed && above * step == high)
  let toBelow := value - below * step
  let toAbove := above * step - value
  if hitBelow && hitAbove then
    some (if toBelow < toAbove || (toBelow == toAbove && below % 2 == 0) then below else above)
  else if hitBelow then some below
  else if hitAbove then some above
  else none

/-- Tries finer and finer grids. -/
def shortestFrom (b : Nat) : Nat → Int → Decimal
  | 0, e => ⟨0, e⟩
  | fuel + 1, e => ((gridPoint? b e).map fun d => ⟨d, e⟩).getD (shortestFrom b fuel (e - 1))

/-- A decimal exponent above that of every number of this magnitude. -/
def coarsestExponent (magnitude : Nat) : Int :=
  ((magnitude.log2 : Int) - 1073) * 30103 / 100000 + 1

/-- The shortest decimal that reads back as the magnitude of a finite number; zero for zero. -/
def shortest (x : Binary64) : Decimal :=
  if x.body = 0 then ⟨0, 0⟩ else shortestFrom x.body 400 (coarsestExponent x.magnitude)

/-! ## Layouts -/

def signText (x : Binary64) : String := if x.signBit then "-" else ""

/-- Digits and a point only: no exponent, and no point in a whole number. -/
def toPositional (x : Binary64) : String :=
  if x.isNaN then "NaN"
  else if x.isInfinite then x.signText ++ "inf"
  else
    let (whole, part) := x.shortest.split
    x.signText ++ String.ofList (if part.isEmpty then whole else whole ++ '.' :: part)

/-- A finite number in a JSON text: always a point or an exponent; the point stands among the
digits as long as it is at most sixteen places to the right or four to the left of the first. An
exponent always has its sign. -/
def toJsonText (x : Binary64) : String :=
  let d := x.shortest
  let point := d.pointPosition
  let text :=
    if -5 < point && point ≤ 16 then
      let (whole, part) := d.split
      whole ++ '.' :: (if part.isEmpty then ['0'] else part)
    else
      let exponent := (if 0 < point then ['+'] else []) ++ (toString (point - 1)).toList
      match Decimal.digitsOf d.digits with
      | [c] => c :: 'e' :: exponent
      | c :: cs => c :: '.' :: cs ++ 'e' :: exponent
      | [] => []
  x.signText ++ String.ofList text

/-- The quotient rounded to the nearest natural number, a tie going to the even one. -/
def divideToEven (num den : Nat) : Nat :=
  let q := num / den
  let rest := 2 * (num % den)
  if den < rest || (rest == den && q % 2 == 1) then q + 1 else q

/-- A fixed number of places after the point; the exact value is rounded, a tie to even. -/
def toFixed (x : Binary64) (places : Nat) : String :=
  if x.isNaN then "NaN"
  else if x.isInfinite then x.signText ++ "inf"
  else
    let n := divideToEven (x.magnitude * Nat.pow 10 places) (1 <<< 1074)
    let ds := Decimal.digitsOf n
    let ds := List.replicate (places + 1 - ds.length) '0' ++ ds
    let whole := ds.take (ds.length - places)
    let part := ds.drop (ds.length - places)
    x.signText ++ String.ofList (if part.isEmpty then whole else whole ++ '.' :: part)

end Binary64
end TrigramSearch
