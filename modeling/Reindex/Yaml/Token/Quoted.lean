import Reindex.Text.Digits
import Reindex.Yaml.Token.Gap

namespace Reindex.Yaml.Quoted

/-- The number of digits that follow the letter of a numeric escape. -/
def escapeWidth? : Char → Option Nat
  | 'x' => some 2
  | 'u' => some 4
  | 'U' => some 8
  | _ => none

def escaped? : Char → Option Char
  | '0' => some '\x00'
  | 'a' => some '\x07'
  | 'b' => some '\x08'
  | 't' | '\t' => some '\t'
  | 'n' => some '\n'
  | 'v' => some '\x0b'
  | 'f' => some '\x0c'
  | 'r' => some '\r'
  | 'e' => some '\x1b'
  | ' ' => some ' '
  | '"' => some '"'
  | '/' => some '/'
  | '\\' => some '\\'
  | 'N' => some '\u0085'
  | '_' => some '\u00a0'
  | 'L' => some '\u2028'
  | 'P' => some '\u2029'
  | _ => none

def readEscape (cursor : Cursor) : Option (Char × Cursor) := do
  let letter ← cursor.look? 0
  match escapeWidth? letter with
  | none => (escaped? letter).map (·, cursor.skip 1)
  | some width =>
    let digits := (cursor.rest.drop 1).take width
    let code ← if digits.length = width then Text.ofDigits? 16 digits else none
    if code.isValidChar then some (Char.ofNat code, cursor.skip (1 + width)) else none

mutual

def readText (quote : Char) : Nat → Cursor → Option (List Char × Cursor)
  | 0, _ => none
  | fuel + 1, cursor => do
    let c ← cursor.look? 0
    if cursor.isDocumentMark then none
    else if c == quote then
      if quote == '\'' && cursor.look? 1 == some '\'' then
        readAfter quote fuel ['\''] (cursor.skip 2)
      else some ([], cursor.skip 1)
    else if c == '\\' && quote == '"' then
      match (cursor.skip 1).readBreak? with
      | some (_, next) => readGap quote fuel (.breaks [] []) next
      | none =>
        let (c, next) ← readEscape (cursor.skip 1)
        readAfter quote fuel [c] next
    else if isBlank c || isBreak c then readGap quote fuel .none cursor
    else readAfter quote fuel [c] (cursor.skip 1)

def readAfter (quote : Char) : Nat → List Char → Cursor → Option (List Char × Cursor)
  | 0, _, _ => none
  | fuel + 1, before, cursor =>
    (readText quote fuel cursor).map (fun (text, next) => (before ++ text, next))

def readGap (quote : Char) : Nat → Gap → Cursor → Option (List Char × Cursor)
  | 0, _, _ => none
  | fuel + 1, gap, cursor => do
    let (gap, next) ← Gap.read 0 (cursor.left + 1) gap cursor
    readAfter quote fuel gap.joined next

end

def read (quote : Char) (cursor : Cursor) : Option (List Char × Cursor) :=
  readText quote (3 * cursor.left + 1) (cursor.skip 1)

end Reindex.Yaml.Quoted
