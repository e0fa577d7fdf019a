namespace Reindex.Number

/-- The number `mantissa * 2 ^ exponent`, with its sign. The mantissa has 53 bits, or fewer at the
least exponent. -/
structure Binary64 where
  negative : Bool
  mantissa : Nat
  exponent : Int
  deriving DecidableEq, Repr

namespace Binary64

def mantissaBits : Nat := 53

def leastExponent : Int := -1074

def greatestExponent : Int := 971

def zero (negative : Bool) : Binary64 := ⟨negative, 0, leastExponent⟩

/-- The quotient rounded to the nearest whole number, a half to the even neighbour. -/
def roundQuotient (num den : Nat) : Nat :=
  let quotient := num / den
  let twice := 2 * (num % den)
  if twice > den || (twice == den && quotient % 2 == 1) then quotient + 1 else quotient

def scaled (num den : Nat) (power : Int) : Nat × Nat :=
  if power < 0 then (num, den * Nat.pow 2 power.natAbs)
  else (num * Nat.pow 2 power.natAbs, den)

def binaryMagnitude (num den : Nat) : Int :=
  let guess := (num.log2 : Int) - den.log2
  let (n, d) := scaled num den (-guess)
  if n < d then guess - 1 else guess

/-- The number nearest to a quotient. -/
def ofRatio (negative : Bool) (num den : Nat) : Option Binary64 :=
  if num = 0 then some (zero negative)
  else
    let exponent := max leastExponent (binaryMagnitude num den - (mantissaBits - 1))
    let (n, d) := scaled num den (-exponent)
    let mantissa := roundQuotient n d
    let (mantissa, exponent) :=
      if mantissa = Nat.pow 2 mantissaBits then (Nat.pow 2 (mantissaBits - 1), exponent + 1)
      else (mantissa, exponent)
    if exponent > greatestExponent then none else some ⟨negative, mantissa, exponent⟩

def ofNat (n : Nat) : Option Binary64 := ofRatio false n 1

def numerator (x : Binary64) : Nat := (scaled x.mantissa 1 x.exponent).1

def denominator (x : Binary64) : Nat := (scaled x.mantissa 1 x.exponent).2

def mul (x y : Binary64) : Option Binary64 :=
  ofRatio (x.negative != y.negative) (x.numerator * y.numerator) (x.denominator * y.denominator)

def div (x y : Binary64) : Option Binary64 :=
  ofRatio (x.negative != y.negative) (x.numerator * y.denominator) (x.denominator * y.numerator)

def isZero (x : Binary64) : Bool := x.mantissa == 0

def neg (x : Binary64) : Binary64 := { x with negative := !x.negative }

/-- Beyond this many decimal places to either side every number has left the range. -/
def decimalReach : Nat := 400

def ofDecimal (negative : Bool) (digits : Nat) (power : Int) : Option Binary64 :=
  let magnitude := power + (Nat.toDigits 10 digits).length
  if digits = 0 || magnitude < -(decimalReach : Int) then some (zero negative)
  else if magnitude > decimalReach then none
  else if power < 0 then ofRatio negative digits (Nat.pow 10 power.natAbs)
  else ofRatio negative (digits * Nat.pow 10 power.natAbs) 1

end Binary64

end Reindex.Number
