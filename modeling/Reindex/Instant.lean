import Reindex.Text.Blank

namespace Reindex

structure Date where
  year : Int
  month : Nat
  day : Nat
  deriving DecidableEq, Repr

namespace Date

def isLeapYear (year : Int) : Bool := year % 4 == 0 && (year % 100 != 0 || year % 400 == 0)

def daysIn (year : Int) (month : Nat) : Nat :=
  if month = 2 then if isLeapYear year then 29 else 28
  else if month ∈ [4, 6, 9, 11] then 30 else 31

def isValid (date : Date) : Bool :=
  -262143 ≤ date.year && date.year ≤ 262142 && 1 ≤ date.month && date.month ≤ 12 &&
    1 ≤ date.day && date.day ≤ daysIn date.year date.month

def next (date : Date) : Date :=
  if date.day < daysIn date.year date.month then { date with day := date.day + 1 }
  else if date.month < 12 then ⟨date.year, date.month + 1, 1⟩
  else ⟨date.year + 1, 1, 1⟩

def previous (date : Date) : Date :=
  if 1 < date.day then { date with day := date.day - 1 }
  else if 1 < date.month then ⟨date.year, date.month - 1, daysIn date.year (date.month - 1)⟩
  else ⟨date.year - 1, 12, 31⟩

end Date

/-- A second of a day, with a fraction. A leap second lasts beyond its thousand millionth
nanosecond. -/
structure Instant where
  date : Date
  second : Nat
  nanosecond : Nat
  deriving DecidableEq, Repr

namespace Instant

def secondsPerDay : Nat := 86400

/-- The instant that a clock shows which is `offset` seconds ahead. -/
def back (instant : Instant) (offset : Int) : Instant :=
  let second := (instant.second : Int) - offset
  if second < 0 then
    { instant with date := instant.date.previous, second := (second + secondsPerDay).toNat }
  else if secondsPerDay ≤ second then
    { instant with date := instant.date.next, second := (second - secondsPerDay).toNat }
  else { instant with second := second.toNat }

def value (digits : List Char) : Nat :=
  digits.foldl (fun n c => 10 * n + (c.toNat - '0'.toNat)) 0

def number? (width : Nat) (cs : List Char) : Option (Nat × List Char) :=
  let cs := Text.trimStart cs
  let digits := (cs.takeWhile Char.isDigit).take width
  if digits.isEmpty then none else some (value digits, cs.drop digits.length)

def year? (cs : List Char) : Option (Int × List Char) :=
  match Text.trimStart cs with
  | '-' :: cs => if cs.head?.any Char.isDigit
      then (number? cs.length cs).map (fun (n, rest) => (-n, rest)) else none
  | '+' :: cs => if cs.head?.any Char.isDigit
      then (number? cs.length cs).map (fun (n, rest) => (n, rest)) else none
  | cs => (number? 4 cs).map (fun (n, rest) => (n, rest))

def mark? (c : Char) (cs : List Char) : Option (List Char) :=
  match Text.trimStart cs with
  | d :: rest => if c = d then some rest else none
  | [] => none

def date? (cs : List Char) : Option (Date × List Char) := do
  let (year, cs) ← year? cs
  let (month, cs) ← number? 2 (← mark? '-' cs)
  let (day, cs) ← number? 2 (← mark? '-' cs)
  let date : Date := ⟨year, month, day⟩
  if date.isValid then some (date, cs) else none

/-- Nine places behind the point count. -/
def fraction? (cs : List Char) : Option (Nat × List Char) :=
  match cs with
  | '.' :: cs =>
    let digits := cs.takeWhile Char.isDigit
    let kept := digits.take 9
    if digits.isEmpty then none
    else some (value kept * Nat.pow 10 (9 - kept.length), cs.drop digits.length)
  | cs => some (0, cs)

/-- The second of the day and its fraction. The sixtieth second of a minute is a leap second. -/
def time? (cs : List Char) : Option ((Nat × Nat) × List Char) := do
  let (hour, cs) ← number? 2 cs
  let (minute, cs) ← number? 2 (← mark? ':' cs)
  let (second, cs) ← number? 2 (← mark? ':' cs)
  let (nanosecond, cs) ← fraction? cs
  if 23 < hour ∨ 59 < minute ∨ 60 < second then none
  let whole := hour * 3600 + minute * 60 + min second 59
  some ((whole, if second = 60 then nanosecond + Nat.pow 10 9 else nanosecond), cs)

def twoDigits? : List Char → Option (Nat × List Char)
  | a :: b :: cs => if a.isDigit && b.isDigit then some (value [a, b], cs) else none
  | _ => none

def signedOffset? (negative : Bool) (cs : List Char) : Option (Int × List Char) := do
  let (hours, cs) ← twoDigits? cs
  let (minutes, cs) ← twoDigits? (cs.dropWhile (fun c => c == ':' || Text.isBlank c))
  let seconds := hours * 3600 + minutes * 60
  if 59 < minutes ∨ secondsPerDay ≤ seconds then none
  some (if negative then -(seconds : Int) else seconds, cs)

def offset? (cs : List Char) : Option (Int × List Char) :=
  match Text.trimStart cs with
  | 'Z' :: cs | 'z' :: cs => some (0, cs)
  | '+' :: cs => signedOffset? false cs
  | '-' :: cs | '−' :: cs => signedOffset? true cs
  | u :: t :: c :: cs =>
    if (u = 'U' ∨ u = 'u') ∧ (t = 'T' ∨ t = 't') ∧ (c = 'C' ∨ c = 'c') then some (0, cs)
    else none
  | _ => none

def ofText? (text : String) : Option Instant := do
  let (date, cs) ← date? text.toList
  let cs ← match cs with
    | 'T' :: cs | 't' :: cs | ' ' :: cs => some cs
    | _ => none
  let ((second, nanosecond), cs) ← time? cs
  let (offset, cs) ← offset? cs
  if (Text.trimStart cs).isEmpty then some (back ⟨date, second, nanosecond⟩ offset) else none

def padded (width n : Nat) : String :=
  let digits := Nat.toDigits 10 n
  String.ofList (List.replicate (width - digits.length) '0' ++ digits)

/-- Years of more or less than four digits carry a sign. -/
def yearText (year : Int) : String :=
  if 0 ≤ year ∧ year ≤ 9999 then padded 4 year.natAbs
  else (if year < 0 then "-" else "+") ++ padded 4 year.natAbs

def fractionText (nanosecond : Nat) : String :=
  if nanosecond = 0 then ""
  else if nanosecond % Nat.pow 10 6 = 0 then "." ++ padded 3 (nanosecond / Nat.pow 10 6)
  else if nanosecond % Nat.pow 10 3 = 0 then "." ++ padded 6 (nanosecond / Nat.pow 10 3)
  else "." ++ padded 9 nanosecond

def text (instant : Instant) : String :=
  let leap := instant.nanosecond / Nat.pow 10 9
  yearText instant.date.year ++ "-" ++ padded 2 instant.date.month ++ "-" ++
    padded 2 instant.date.day ++ "T" ++ padded 2 (instant.second / 3600) ++ ":" ++
    padded 2 (instant.second / 60 % 60) ++ ":" ++ padded 2 (instant.second % 60 + leap) ++
    fractionText (instant.nanosecond % Nat.pow 10 9) ++ "Z"

end Instant

end Reindex
