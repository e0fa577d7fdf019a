import Reindex.Json
import Reindex.Text.Digits

namespace Reindex.Yaml.Scalar

def isNull (text : String) : Bool := ["null", "Null", "NULL", "~"].contains text

def flag? (text : String) : Option Bool :=
  if ["true", "True", "TRUE"].contains text then some true
  else if ["false", "False", "FALSE"].contains text then some false
  else none

/-- The number of an unsigned text. A zero and a letter mark a base other than ten. -/
def magnitude? : List Char → Option Nat
  | '0' :: 'x' :: cs => Text.ofDigits? 16 cs
  | '0' :: 'o' :: cs => Text.ofDigits? 8 cs
  | '0' :: 'b' :: cs => Text.ofDigits? 2 cs
  | cs => Text.ofDigits? 10 cs

def isSign (c : Char) : Bool := c == '+' || c == '-'

/-- Digits after a zero that counts for nothing are no number. -/
def isPadded (text : String) : Bool :=
  let cs := match text.toList with
    | c :: cs => if isSign c then cs else c :: cs
    | [] => []
  match cs with
  | '0' :: d :: ds => (d :: ds).all Char.isDigit
  | _ => false

def integer? (text : String) : Option Int :=
  if isPadded text then none
  else match text.toList with
    | '-' :: cs => (magnitude? cs).map (fun n => -(n : Int))
    | '+' :: cs => (magnitude? cs).map Int.ofNat
    | cs => (magnitude? cs).map Int.ofNat

def natural? (text : String) : Option Nat :=
  match text.toList with
  | '-' :: _ => none
  | _ => (integer? text).map Int.toNat

/-- Sign, digits without point, and the exponent of ten. -/
structure Decimal where
  negative : Bool
  digits : List Char
  power : Int

def exponent? : List Char → Option Int
  | [] => some 0
  | c :: cs =>
    if c != 'e' && c != 'E' then none
    else match cs with
      | '-' :: cs => (Text.ofDigits? 10 cs).map (fun n => -(n : Int))
      | '+' :: cs => (Text.ofDigits? 10 cs).map Int.ofNat
      | cs => (Text.ofDigits? 10 cs).map Int.ofNat

def decimal? (cs : List Char) : Option Decimal :=
  let (negative, cs) := match cs with
    | '-' :: cs => (true, cs)
    | '+' :: cs => (false, cs)
    | cs => (false, cs)
  let whole := cs.takeWhile Char.isDigit
  let rest := cs.dropWhile Char.isDigit
  let (fraction, rest) := match rest with
    | '.' :: rest => (rest.takeWhile Char.isDigit, rest.dropWhile Char.isDigit)
    | rest => ([], rest)
  let digits := whole ++ fraction
  if digits.isEmpty then none
  else (exponent? rest).map (fun power => ⟨negative, digits, power - fraction.length⟩)

def isNotFinite (text : String) : Bool :=
  [".inf", ".Inf", ".INF", "+.inf", "+.Inf", "+.INF", "-.inf", "-.Inf", "-.INF", ".nan", ".NaN",
    ".NAN"].contains text

def binary? (text : String) : Option Number.Binary64 := do
  let decimal ← decimal? text.toList
  let digits ← Text.ofDigits? 10 decimal.digits
  Number.Binary64.ofDecimal decimal.negative digits decimal.power

/-- Values have no infinities; these read as null. -/
def float? (text : String) : Option Json :=
  if isNotFinite text then some .null
  else (binary? text).map (fun x => .number (.binary x))

def fitsValue (n : Int) : Bool := -Int.pow 2 63 ≤ n && n < Int.pow 2 64

def fitsWide (n : Int) : Bool := -Int.pow 2 127 ≤ n && n < Int.pow 2 128

/-- The value of a plain scalar. A whole number that is wide but no value is refused. -/
def value? (text : String) : Option Json :=
  if text = "" || isNull text then some .null
  else match flag? text with
    | some flag => some (.bool flag)
    | none =>
      match (integer? text).filter fitsWide with
      | some n => if fitsValue n then some (.number (.whole n)) else none
      | none => if isPadded text then some (.string text) else (float? text).getD (.string text)

end Reindex.Yaml.Scalar
