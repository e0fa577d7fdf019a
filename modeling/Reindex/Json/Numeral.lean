import Reindex.Json

namespace Reindex.Json.Numeral

def significandLimit : Nat := Nat.pow 2 64 - 1

def greatestPower : Nat := 308

def powerOfTen (power : Nat) : Option Number.Binary64 := Number.Binary64.ofNat (Nat.pow 10 power)

/-- Reads digits into a significand while it stays within the limit; the rest is what does not. -/
def collect (significand : Nat) : List Char → Nat × List Char
  | [] => (significand, [])
  | c :: cs =>
    if c.isDigit then
      let next := significand * 10 + (c.toNat - '0'.toNat)
      if next ≤ significandLimit then collect next cs else (significand, c :: cs)
    else (significand, c :: cs)

/-- The power is brought into range by dividing, which soon leaves zero. -/
def shiftDown : Nat → Number.Binary64 → Int → Option Number.Binary64
  | 0, x, _ => some x
  | steps + 1, x, power =>
    if x.isZero then some x
    else if power < -(greatestPower : Int) then do
      let y ← x.div (← powerOfTen greatestPower)
      shiftDown steps y (power + greatestPower)
    else do x.div (← powerOfTen power.natAbs)

def binary? (significand : Nat) (power : Int) : Option Number.Binary64 := do
  let x ← Number.Binary64.ofNat significand
  if power < 0 then shiftDown 3 x power
  else if x.isZero then some x
  else if power > greatestPower then none
  else x.mul (← powerOfTen power.natAbs)

def exponent? (cs : List Char) : Option (Int × List Char) :=
  let (negative, cs) := match cs with
    | '+' :: cs => (false, cs)
    | '-' :: cs => (true, cs)
    | cs => (false, cs)
  let digits := cs.takeWhile Char.isDigit
  let magnitude : Nat := (String.ofList digits).toNat?.getD 0
  if digits.isEmpty then none
  else some (if negative then -magnitude else magnitude, cs.dropWhile Char.isDigit)

/-- A numeral without sign: whole digits, then a fraction and an exponent if they are there. The
flag tells whether only whole digits within the limit were read. -/
structure Unsigned where
  significand : Nat
  power : Int
  isWhole : Bool
  rest : List Char

def readExponent (significand : Nat) (power : Int) (isWhole : Bool) (cs : List Char) :
    Option Unsigned :=
  match cs with
  | 'e' :: cs | 'E' :: cs => do
    let (exponent, rest) ← exponent? cs
    some ⟨significand, power + exponent, false, rest⟩
  | cs => some ⟨significand, power, isWhole, cs⟩

def readFraction (significand : Nat) (power : Int) (isWhole : Bool) (cs : List Char) :
    Option Unsigned :=
  match cs with
  | '.' :: cs =>
    if (cs.takeWhile Char.isDigit).isEmpty then none
    else
      let (longer, rest) := collect significand cs
      let places : Nat := cs.length - rest.length
      readExponent longer (power - places) false (rest.dropWhile Char.isDigit)
  | cs => readExponent significand power isWhole cs

def readUnsigned (cs : List Char) : Option Unsigned :=
  match cs with
  | '0' :: cs =>
    if (cs.takeWhile Char.isDigit).isEmpty then readFraction 0 0 true cs else none
  | cs =>
    if (cs.takeWhile Char.isDigit).isEmpty then none
    else
      let (significand, rest) := collect 0 cs
      let dropped := rest.takeWhile Char.isDigit
      readFraction significand dropped.length dropped.isEmpty (rest.dropWhile Char.isDigit)

def leastWhole : Int := -Int.pow 2 63

/-- Minus zero and numbers below the least whole one are binary. -/
def negate? (numeral : Unsigned) : Option JsonNumber :=
  let value : Int := -numeral.significand
  if numeral.isWhole && numeral.significand != 0 && leastWhole ≤ value then some (.whole value)
  else (binary? numeral.significand numeral.power).map (fun x => .binary x.neg)

def read (cs : List Char) : Option (JsonNumber × List Char) :=
  match cs with
  | '-' :: cs => do
    let numeral ← readUnsigned cs
    some (← negate? numeral, numeral.rest)
  | cs => do
    let numeral ← readUnsigned cs
    let number ← if numeral.isWhole then some (JsonNumber.whole numeral.significand)
      else (binary? numeral.significand numeral.power).map JsonNumber.binary
    some (number, numeral.rest)

end Reindex.Json.Numeral
