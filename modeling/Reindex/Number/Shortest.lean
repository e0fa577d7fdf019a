import Reindex.Number.Binary64

namespace Reindex.Number.Shortest

variable (x : Binary64)

/-- Exact values lie on a grid of a quarter of the last place, which also holds the borders of the
interval that rounds to the number. -/
def gridPower : Int := x.exponent - 2

def exact : Nat := 4 * x.mantissa

/-- The next number below is half as far away at a power of two. -/
def lower : Nat :=
  if x.mantissa = Nat.pow 2 (Binary64.mantissaBits - 1) ∧ Binary64.leastExponent < x.exponent
  then exact x - 1 else exact x - 2

def upper : Nat := exact x + 2

/-- The borders round to the number itself if its mantissa is even. -/
def within (lo mid hi : Nat) : Bool :=
  if x.mantissa % 2 = 0 then lo ≤ mid && mid ≤ hi else lo < mid && mid < hi

def digitCount (n : Nat) : Nat := (Nat.toDigits 10 n).length

def decimalMagnitude : Int :=
  let (n, d) := Binary64.scaled (x.mantissa * Nat.pow 10 Binary64.decimalReach) 1 x.exponent
  (digitCount (n / d) : Int) - 1 - Binary64.decimalReach

/-- The multiple of `10 ^ power` nearest to the number, if it rounds back to it. -/
def multiple? (power : Int) : Option Nat :=
  let (gridNum, gridDen) := Binary64.scaled 1 1 (gridPower x)
  let step := Nat.pow 10 power.natAbs
  let (stepNum, stepDen) := if power < 0 then (1, step) else (step, 1)
  let unit := stepNum * gridDen
  let places (n : Nat) : Nat := n * gridNum * stepDen
  let floor := places (exact x) / unit
  let above (candidate : Nat) : Bool :=
    within x (places (lower x)) (candidate * unit) (places (upper x))
  match above floor && floor != 0, above (floor + 1) with
  | true, true => some (Binary64.roundQuotient (places (exact x)) unit)
  | true, false => some floor
  | false, true => some (floor + 1)
  | false, false => none

def stripZeros (digits : List Char) : List Char := (digits.reverse.dropWhile (· == '0')).reverse

def digits : List Char × Int :=
  let magnitude := decimalMagnitude x
  let found := (List.range 17).findSome? (fun (count : Nat) =>
    (multiple? x (magnitude - count)).map (fun n => (n, magnitude - count)))
  let (n, power) := found.getD (0, 0)
  let all := Nat.toDigits 10 n
  (stripZeros all, power + all.length - 1)

def pointAfter (digits : List Char) (count : Nat) : List Char :=
  digits.take count ++ '.' :: digits.drop count

/-- Positional from five places behind the point up to sixteen before it, otherwise with an
exponent. Whole numbers keep one zero behind the point. -/
def layOut (digits : List Char) (magnitude : Int) : List Char :=
  let before := magnitude + 1
  let count := digits.length
  if count ≤ before && before ≤ 16 then
    digits ++ List.replicate (before.natAbs - count) '0' ++ ['.', '0']
  else if 0 < before && before ≤ 16 then pointAfter digits before.natAbs
  else if -5 < before && before ≤ 0 then
    '0' :: '.' :: List.replicate before.natAbs '0' ++ digits
  else
    let mantissa := if count = 1 then digits else pointAfter digits 1
    mantissa ++ 'e' :: (toString magnitude).toList

def text : String :=
  let body := if x.isZero then "0.0".toList
    else let (ds, magnitude) := digits x; layOut ds magnitude
  String.ofList (if x.negative then '-' :: body else body)

end Reindex.Number.Shortest
