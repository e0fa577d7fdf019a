import Reindex.Json.Numeral
import Reindex.Text.Digits

namespace Reindex.Json.Reader

def isSpace (c : Char) : Bool := c == ' ' || c == '\n' || c == '\t' || c == '\r'

def skipSpace (cs : List Char) : List Char := cs.dropWhile isSpace

def escaped? : Char → Option Char
  | '"' => some '"'
  | '\\' => some '\\'
  | '/' => some '/'
  | 'b' => some '\x08'
  | 'f' => some '\x0c'
  | 'n' => some '\n'
  | 'r' => some '\r'
  | 't' => some '\t'
  | _ => none

def joinSurrogates? (high low : Nat) : Option Char :=
  if 0xD800 ≤ high ∧ high < 0xDC00 ∧ 0xDC00 ≤ low ∧ low < 0xE000 then
    some (Char.ofNat (0x10000 + (high - 0xD800) * 0x400 + (low - 0xDC00)))
  else none

def readString : List Char → Option (List Char × List Char)
  | [] => none
  | '"' :: cs => some ([], cs)
  | '\\' :: 'u' :: a :: b :: c :: d :: cs => do
    let code ← Text.ofDigits? 16 [a, b, c, d]
    if code < 0xD800 ∨ 0xE000 ≤ code then
      let (text, rest) ← readString cs
      some (Char.ofNat code :: text, rest)
    else match cs with
      | '\\' :: 'u' :: e :: f :: g :: h :: cs => do
        let char ← joinSurrogates? code (← Text.ofDigits? 16 [e, f, g, h])
        let (text, rest) ← readString cs
        some (char :: text, rest)
      | _ => none
  | '\\' :: c :: cs => do
    let char ← escaped? c
    let (text, rest) ← readString cs
    some (char :: text, rest)
  | c :: cs => do
    if c.toNat < 0x20 ∨ c = '\\' then none
    let (text, rest) ← readString cs
    some (c :: text, rest)

def depthLimit : Nat := 127

mutual

/-- The value at the start of the text. Every call takes one unit of fuel. -/
def readValue : Nat → Nat → List Char → Option (Json × List Char)
  | 0, _, _ => none
  | fuel + 1, depth, cs =>
    match skipSpace cs with
    | 'n' :: 'u' :: 'l' :: 'l' :: cs => some (null, cs)
    | 't' :: 'r' :: 'u' :: 'e' :: cs => some (bool true, cs)
    | 'f' :: 'a' :: 'l' :: 's' :: 'e' :: cs => some (bool false, cs)
    | '"' :: cs => (readString cs).map (fun (text, rest) => (string (String.ofList text), rest))
    | '[' :: cs => do
      if depth = 0 then none
      let (items, rest) ← match skipSpace cs with
        | ']' :: rest => some ([], rest)
        | cs => readItems fuel (depth - 1) cs
      some (array items, rest)
    | '\x7b' :: cs => do
      if depth = 0 then none
      let (members, rest) ← match skipSpace cs with
        | '\x7d' :: rest => some ([], rest)
        | cs => readMembers fuel (depth - 1) cs
      some (object members, rest)
    | cs => (Numeral.read cs).map (fun (value, rest) => (number value, rest))

def readItems : Nat → Nat → List Char → Option (List Json × List Char)
  | 0, _, _ => none
  | fuel + 1, depth, cs => do
    let (item, rest) ← readValue fuel depth cs
    match skipSpace rest with
    | ']' :: rest => some ([item], rest)
    | ',' :: rest =>
      let (items, rest) ← readItems fuel depth rest
      some (item :: items, rest)
    | _ => none

def readMembers : Nat → Nat → List Char → Option (List (String × Json) × List Char)
  | 0, _, _ => none
  | fuel + 1, depth, cs => do
    let (name, rest) ← match skipSpace cs with
      | '"' :: cs => readString cs
      | _ => none
    let rest ← match skipSpace rest with
      | ':' :: rest => some rest
      | _ => none
    let (value, rest) ← readValue fuel depth rest
    let member := (String.ofList name, value)
    match skipSpace rest with
    | '\x7d' :: rest => some ([member], rest)
    | ',' :: rest =>
      let (members, rest) ← readMembers fuel depth rest
      some (member :: members, rest)
    | _ => none

end

end Reindex.Json.Reader

namespace Reindex.Json

def ofText? (text : String) : Option Json := do
  let cs := text.toList
  let (value, rest) ← Reader.readValue (2 * cs.length + 1) Reader.depthLimit cs
  if (Reader.skipSpace rest).isEmpty then some value else none

end Reindex.Json
