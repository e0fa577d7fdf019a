import Reindex.Text.Digits
import Reindex.Yaml.Cursor
import Reindex.Yaml.Token

namespace Reindex.Yaml.TagText

def isUriChar (verbatim : Bool) (c : Char) : Bool :=
  isWord c || [';', '/', '?', ':', '@', '&', '=', '+', '$', '.', '%', '!', '~', '*', '\'', '(',
    ')'].contains c || (verbatim && [',', '[', ']'].contains c)

def escapedOctet? (cursor : Cursor) : Option UInt8 :=
  match cursor.rest with
  | '%' :: a :: b :: _ => (Text.ofDigits? 16 [a, b]).map UInt8.ofNat
  | _ => none

def trailingCount? (octet : UInt8) : Option Nat :=
  if octet &&& 0x80 == 0 then some 0
  else if octet &&& 0xE0 == 0xC0 then some 1
  else if octet &&& 0xF0 == 0xE0 then some 2
  else if octet &&& 0xF8 == 0xF0 then some 3
  else none

def readTrailing : Nat → Cursor → Option (Octets × Cursor)
  | 0, cursor => some ([], cursor)
  | count + 1, cursor => do
    let octet ← escapedOctet? cursor
    if octet &&& 0xC0 != 0x80 then none
    let (octets, next) ← readTrailing count (cursor.skip 3)
    some (octet :: octets, next)

def readEscaped (cursor : Cursor) : Option (Octets × Cursor) := do
  let octet ← escapedOctet? cursor
  let (octets, next) ← readTrailing (← trailingCount? octet) (cursor.skip 3)
  some (octet :: octets, next)

def readUriFrom (verbatim : Bool) : Nat → Cursor → Option (Octets × Cursor)
  | 0, _ => none
  | fuel + 1, cursor =>
    match cursor.look? 0 with
    | none => some ([], cursor)
    | some c =>
      if !isUriChar verbatim c then some ([], cursor)
      else do
        let (octets, next) ← if c == '%' then readEscaped cursor
          else some ([UInt8.ofNat c.toNat], cursor.skip 1)
        let (more, next) ← readUriFrom verbatim fuel next
        some (octets ++ more, next)

def readUri (verbatim : Bool) (cursor : Cursor) : Option (Octets × Cursor) :=
  readUriFrom verbatim (cursor.left + 1) cursor

def readFilledUri (verbatim : Bool) (cursor : Cursor) : Option (Octets × Cursor) := do
  let (octets, next) ← readUri verbatim cursor
  if octets.isEmpty then none else some (octets, next)

/-- An exclamation mark, and if the word after it is closed by another one, that word too. -/
def readHandle (cursor : Cursor) : Option (List Char × Bool × Cursor) :=
  if !cursor.isAt '!' then none
  else
    let (word, next) := (cursor.skip 1).readWhile isWord
    if next.isAt '!' then some ('!' :: word ++ ['!'], true, next.skip 1)
    else some ('!' :: word, false, next)

/-- A tag whose handle is not closed belongs to the handle `!`, and `!` alone is a tag itself. -/
def readShort (cursor : Cursor) : Option (Token × Cursor) := do
  let (handle, isClosed, next) ← readHandle cursor
  if isClosed then
    let (suffix, next) ← readFilledUri false next
    some (.tag (String.ofList handle) suffix, next)
  else
    let (more, next) ← readUri false next
    let suffix := Octets.ofText (String.ofList (handle.drop 1)) ++ more
    if suffix.isEmpty then some (.tag "" (Octets.ofText "!"), next)
    else some (.tag "!" suffix, next)

def readVerbatim (cursor : Cursor) : Option (Token × Cursor) := do
  let (suffix, next) ← readFilledUri true (cursor.skip 2)
  if next.isAt '>' then some (.tag "" suffix, next.skip 1) else none

def read (inFlow : Bool) (cursor : Cursor) : Option (Token × Cursor) := do
  let (token, next) ← if cursor.look? 1 == some '<' then readVerbatim cursor else readShort cursor
  if next.isEndAt 0 || (inFlow && next.isAt ',') then some (token, next) else none

end Reindex.Yaml.TagText

namespace Reindex.Yaml.Directive

def readNumber (cursor : Cursor) : Option (Nat × Cursor) := do
  let (digits, next) := cursor.readWhile Char.isDigit
  if digits.isEmpty || 9 < digits.length then none
  else (String.ofList digits).toNat?.map (·, next)

def readVersion (cursor : Cursor) : Option (Token × Cursor) := do
  let (major, next) ← readNumber cursor.skipBlanks
  if !next.isAt '.' then none
  let (minor, next) ← readNumber (next.skip 1)
  some (.version major minor, next)

def readTagHandle (cursor : Cursor) : Option (Token × Cursor) := do
  let (handle, isClosed, next) ← TagText.readHandle cursor.skipBlanks
  if !isClosed && handle != ['!'] then none
  if !next.isBlankAt 0 then none
  let (lead, next) ← TagText.readFilledUri true next.skipBlanks
  if next.isEndAt 0 then some (.tagHandle (String.ofList handle) lead, next) else none

def read (cursor : Cursor) : Option (Token × Cursor) := do
  let (name, next) := (cursor.skip 1).readWhile isWord
  if !next.isEndAt 0 then none
  let (token, next) ←
    if name == "YAML".toList then readVersion next
    else if name == "TAG".toList then readTagHandle next
    else none
  some (token, ← next.finishLine?)

end Reindex.Yaml.Directive
