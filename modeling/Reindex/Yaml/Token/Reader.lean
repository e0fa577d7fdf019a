import Reindex.Yaml.Token.Block
import Reindex.Yaml.Token.Plain
import Reindex.Yaml.Token.Quoted
import Reindex.Yaml.Token.Tag

namespace Reindex.Yaml

/-- A place where a key may have started. If a colon follows, the key token goes in front of what
was read from there. A required place must be one of a key. -/
structure KeyPlace where
  position : Nat
  required : Bool
  index : Nat
  line : Nat
  column : Nat

structure Reader where
  cursor : Cursor
  tokens : Array Token
  /-- Columns of the open block collections, the innermost first. -/
  indents : List Nat
  /-- Places of possible keys in the open flow collections, the innermost first. -/
  flowKeys : List (Option KeyPlace)
  /-- The place of a possible key outside of flow collections. -/
  blockKey : Option KeyPlace
  keyAllowed : Bool

namespace Reader

variable (reader : Reader)

def start (text : String) : Reader := ⟨Cursor.ofText text, #[], [], [], none, true⟩

def inFlow : Bool := !reader.flowKeys.isEmpty

def column : Nat := reader.cursor.column

def emit (token : Token) : Reader := { reader with tokens := reader.tokens.push token }

def emitAt (token : Token) (width : Nat) : Reader :=
  { reader.emit token with cursor := reader.cursor.skip width }

def emitRead (token : Token) (next : Cursor) : Reader := { reader.emit token with cursor := next }

def insertToken (position : Nat) (token : Token) : Reader :=
  { reader with tokens := reader.tokens.insertIdxIfInBounds position token }

def allowKey (allowed : Bool) : Reader := { reader with keyAllowed := allowed }

def currentKey : Option KeyPlace :=
  match reader.flowKeys with
  | key :: _ => key
  | [] => reader.blockKey

def setKey (key : Option KeyPlace) : Reader :=
  match reader.flowKeys with
  | _ :: keys => { reader with flowKeys := key :: keys }
  | [] => { reader with blockKey := key }

def dropKey? : Option Reader :=
  if reader.currentKey.any KeyPlace.required then none else some (reader.setKey none)

def keyLimit : Nat := 1024

/-- A key ends on the line where it starts, and within the limit. -/
def isStale (key : KeyPlace) : Bool :=
  key.line < reader.cursor.line || key.index + keyLimit < reader.cursor.index

def refresh (key : Option KeyPlace) : Option KeyPlace :=
  key.filter (fun key => !reader.isStale key)

def dropStale? : Option Reader :=
  if (reader.blockKey :: reader.flowKeys).any
      (fun key => key.any (fun key => key.required && reader.isStale key)) then none
  else some { reader with
    blockKey := reader.refresh reader.blockKey
    flowKeys := reader.flowKeys.map reader.refresh }

def saveKey? : Option Reader :=
  if !reader.keyAllowed then some reader
  else do
    let reader ← reader.dropKey?
    let required := !reader.inFlow && reader.indents.head? == some reader.column
    some (reader.setKey (some ⟨reader.tokens.size, required, reader.cursor.index,
      reader.cursor.line, reader.column⟩))

def closeBlocks (column : Option Nat) : Reader :=
  if reader.inFlow then reader
  else
    let closed := reader.indents.takeWhile (fun indent => column.all (· < indent))
    { reader with
      indents := reader.indents.drop closed.length
      tokens := reader.tokens ++ (Array.replicate closed.length Token.blockEnd) }

def openBlock (column position : Nat) (token : Token) : Reader :=
  if reader.inFlow || reader.indents.head?.any (column ≤ ·) then reader
  else { reader.insertToken position token with indents := column :: reader.indents }

def openBlockHere (token : Token) : Reader :=
  reader.openBlock reader.column reader.tokens.size token

/-- Passes over white space, comments and line breaks. Tabs do not indent. -/
def skipSpace : Nat → Reader → Reader
  | 0, reader => reader
  | fuel + 1, reader =>
    let cursor := reader.cursor
    let cursor := if cursor.column == 0 && cursor.isAt byteOrderMark then cursor.skip 1 else cursor
    let tabs := reader.inFlow || !reader.keyAllowed
    let cursor := cursor.skipWhile (fun c => c == ' ' || (tabs && c == '\t'))
    let cursor := if cursor.isAt '#' then cursor.skipWhile (fun c => !isBreak c) else cursor
    match cursor.readBreak? with
    | some (_, next) =>
      let keyAllowed := reader.keyAllowed || !reader.inFlow
      skipSpace fuel { reader with cursor := next, keyAllowed }
    | none => { reader with cursor }

def directive? : Option Reader := do
  let reader ← (reader.closeBlocks none).dropKey?
  let (token, next) ← Directive.read reader.cursor
  some ((reader.allowKey false).emitRead token next)

def documentMark? (token : Token) : Option Reader := do
  let reader ← (reader.closeBlocks none).dropKey?
  some ((reader.allowKey false).emitAt token 3)

def openFlow? (token : Token) : Option Reader := do
  let reader ← reader.saveKey?
  some (({ reader with flowKeys := none :: reader.flowKeys }.allowKey true).emitAt token 1)

def closeFlow? (token : Token) : Option Reader := do
  let reader ← reader.dropKey?
  some (({ reader with flowKeys := reader.flowKeys.drop 1 }.allowKey false).emitAt token 1)

def flowEntry? : Option Reader := do
  let reader ← reader.dropKey?
  some ((reader.allowKey true).emitAt .flowEntry 1)

/-- A block collection goes on or starts only where a key may start. -/
def continueBlock? (token : Token) : Option Reader :=
  if reader.inFlow then some reader
  else if reader.keyAllowed then some (reader.openBlockHere token)
  else none

def blockEntry? : Option Reader := do
  let reader ← (← reader.continueBlock? .blockSequence).dropKey?
  some ((reader.allowKey true).emitAt .blockEntry 1)

def key? : Option Reader := do
  let reader ← (← reader.continueBlock? .blockMapping).dropKey?
  some ((reader.allowKey (!reader.inFlow)).emitAt .key 1)

def value? : Option Reader :=
  match reader.currentKey with
  | some key =>
    let reader := (reader.insertToken key.position .key).setKey none
    let reader := reader.openBlock key.column key.position .blockMapping
    some ((reader.allowKey false).emitAt .value 1)
  | none => do
    let reader ← reader.continueBlock? .blockMapping
    some ((reader.allowKey (!reader.inFlow)).emitAt .value 1)

def readName? (cursor : Cursor) : Option (String × Cursor) :=
  let (name, next) := (cursor.skip 1).readWhile isWord
  let closes := next.isEndAt 0 ||
    (next.look? 0).any (fun c => ['?', ':', ',', ']', '\x7d', '%', '@', '\x60'].contains c)
  if name.isEmpty || !closes then none else some (String.ofList name, next)

def name? (token : String → Token) : Option Reader := do
  let reader ← reader.saveKey?
  let (name, next) ← readName? reader.cursor
  some ((reader.allowKey false).emitRead (token name) next)

def tag? : Option Reader := do
  let reader ← reader.saveKey?
  let (token, next) ← TagText.read reader.inFlow reader.cursor
  some ((reader.allowKey false).emitRead token next)

def blockScalar? (style : Style) : Option Reader := do
  let reader ← reader.dropKey?
  let (text, next) ← Block.read (style == .literal) reader.indents.head? reader.cursor
  some ((reader.allowKey true).emitRead (.scalar style (String.ofList text)) next)

def quoted? (style : Style) (quote : Char) : Option Reader := do
  let reader ← reader.saveKey?
  let (text, next) ← Quoted.read quote reader.cursor
  some ((reader.allowKey false).emitRead (.scalar style (String.ofList text)) next)

def plain? : Option Reader := do
  let reader ← reader.saveKey?
  let place := ⟨reader.inFlow, (reader.indents.head?.map (· + 1)).getD 0⟩
  let reading ← Plain.read place reader.cursor
  some ((reader.allowKey reading.newLine).emitRead
    (.scalar .plain (String.ofList reading.text)) reading.next)

/-- An indicator starts a plain scalar if the character after it could go on with one. -/
def startsPlain (c : Char) : Bool :=
  (!isIndicator c && !isBlank c) || (c == '-' && !reader.cursor.isBlankAt 1) ||
    (!reader.inFlow && (c == '?' || c == ':') && !reader.cursor.isEndAt 1)

def step? (c : Char) : Option Reader :=
  let opensHere := reader.cursor.isEndAt 1
  if reader.column == 0 && c == '%' then reader.directive?
  else if reader.cursor.isDocumentStart then reader.documentMark? .documentStart
  else if reader.cursor.isDocumentEnd then reader.documentMark? .documentEnd
  else match c with
    | '[' => reader.openFlow? .flowSequence
    | '\x7b' => reader.openFlow? .flowMapping
    | ']' => reader.closeFlow? .flowSequenceEnd
    | '\x7d' => reader.closeFlow? .flowMappingEnd
    | ',' => reader.flowEntry?
    | '*' => reader.name? .aliasOf
    | '&' => reader.name? .anchor
    | '!' => reader.tag?
    | '\'' => reader.quoted? .singleQuoted '\''
    | '"' => reader.quoted? .doubleQuoted '"'
    | c =>
      if c == '-' && opensHere then reader.blockEntry?
      else if c == '?' && (reader.inFlow || opensHere) then reader.key?
      else if c == ':' && (reader.inFlow || opensHere) then reader.value?
      else if c == '|' && !reader.inFlow then reader.blockScalar? .literal
      else if c == '>' && !reader.inFlow then reader.blockScalar? .folded
      else if reader.startsPlain c then reader.plain?
      else none

def finish? : Option (List Token) :=
  (reader.closeBlocks none).dropKey?.map (fun reader => reader.tokens.toList)

/-- Reads all tokens. Every step passes over a character. -/
def run : Nat → Reader → Option (List Token)
  | 0, _ => none
  | fuel + 1, reader => do
    let reader ← (skipSpace (reader.cursor.left + 1) reader).dropStale?
    match reader.cursor.look? 0 with
    | none => reader.finish?
    | some c => run fuel (← (reader.closeBlocks (some reader.column)).step? c)

end Reader

def Token.ofText? (text : String) : Option (List Token) :=
  if text.toList.all isAllowed then
    Reader.run (text.toList.length + 1) (Reader.start text)
  else none

end Reindex.Yaml
