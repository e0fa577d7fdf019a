import Reindex.Number.Shortest
import Reindex.Json.Writer
import Reindex.Yaml.Layout
import Reindex.Yaml.Output

namespace Reindex.Yaml.Writer

def step : Nat := 2

def deeper (parent : Option Nat) : Nat := (parent.map (· + step)).getD 0

def writePlain (output : Output) (cs : List Char) : Output :=
  let output := if cs.isEmpty then output else output.spaceOut
  { cs.foldl Output.put output with isSpaced := false, isFresh := false }

/-- Writes a line break of the text; the first of several line feeds is written twice. -/
def writeFolded (column : Nat) (output : Output) (inBreaks : Bool) : List Char → Output
  | [] => if inBreaks then output.moveTo column else output
  | c :: cs =>
    if isBreak c then
      let output := if !inBreaks && c == '\n' then output.breakLine '\n' else output
      writeFolded column { output.breakLine c with isFresh := true } true cs
    else
      let output := if inBreaks then output.moveTo column else output
      let output := if c == '\'' then output.put c else output
      writeFolded column { output.put c with isFresh := false } false cs

def writeSingleQuoted (column : Nat) (output : Output) (cs : List Char) : Output :=
  (writeFolded column (output.indicate '\'') false cs).attach '\''

def hexDigits (width n : Nat) : List Char :=
  let digits := (Nat.toDigits 16 n).map Char.toUpper
  List.replicate (width - digits.length) '0' ++ digits

def escape (c : Char) : List Char :=
  match c with
  | '\x00' => ['\\', '0']
  | '\x07' => ['\\', 'a']
  | '\x08' => ['\\', 'b']
  | '\t' => ['\\', 't']
  | '\n' => ['\\', 'n']
  | '\x0b' => ['\\', 'v']
  | '\x0c' => ['\\', 'f']
  | '\r' => ['\\', 'r']
  | '\x1b' => ['\\', 'e']
  | '"' => ['\\', '"']
  | '\\' => ['\\', '\\']
  | '\u0085' => ['\\', 'N']
  | '\u00a0' => ['\\', '_']
  | '\u2028' => ['\\', 'L']
  | '\u2029' => ['\\', 'P']
  | c =>
    let n := c.toNat
    if n < 0x100 then '\\' :: 'x' :: hexDigits 2 n
    else if n < 0x10000 then '\\' :: 'u' :: hexDigits 4 n
    else '\\' :: 'U' :: hexDigits 8 n

def mustEscape (c : Char) : Bool :=
  !Layout.isPrintable c || isBreak c || c == '"' || c == '\\'

def writeDoubleQuoted (output : Output) (cs : List Char) : Output :=
  let body := cs.flatMap (fun c => if mustEscape c then escape c else [c])
  (body.foldl Output.put (output.indicate '"')).attach '"'

/-- What follows the indicator of a literal text: its indentation if the text starts with white
space, and how the line breaks at its end are kept. -/
def literalHints (cs : List Char) : List Char :=
  let indentation :=
    if cs.head?.any (fun c => Layout.isSpace c || isBreak c) then [Nat.digitChar step] else []
  let chomping := match cs.reverse with
    | [] => ['-']
    | c :: rest =>
      if !isBreak c then ['-']
      else if rest.head?.all isBreak then ['+']
      else []
  indentation ++ chomping

def writeLines (column : Nat) (output : Output) (inBreaks : Bool) : List Char → Output
  | [] => output
  | c :: cs =>
    if isBreak c then writeLines column { output.breakLine c with isFresh := true } true cs
    else
      let output := if inBreaks then output.moveTo column else output
      writeLines column { output.put c with isFresh := false } false cs

def writeLiteral (column : Nat) (output : Output) (cs : List Char) : Output :=
  let output := (literalHints cs).foldl Output.attach (output.indicate '|')
  writeLines column { output.breakLine '\n' with isSpaced := true, isFresh := true } true cs

def writeText (parent : Option Nat) (output : Output) (text : String) : Output :=
  let column := (parent.map (· + step)).getD step
  let cs := text.toList
  match Layout.styleOf text with
  | .singleQuoted => writeSingleQuoted column output cs
  | .doubleQuoted => writeDoubleQuoted output cs
  | .literal => writeLiteral column output cs
  | .plain | .folded => writePlain output cs

def writeEmpty (opening closing : Char) (output : Output) : Output :=
  { output.indicate opening with isSpaced := true }.attach closing

mutual

/-- Writes a value inside the collection at the column `parent`, as a member of a mapping or not.
Sequences in mappings are not indented, and empty collections are in flow style. -/
def write (parent : Option Nat) (isMember : Bool) (output : Output) : Json → Output
  | .null => writePlain output "null".toList
  | .bool value => writePlain output (toString value).toList
  | .number value => writePlain output (Json.JsonNumber.text value).toList
  | .string text => writeText parent output text
  | .array [] => writeEmpty '[' ']' output
  | .array (item :: items) =>
    let column := if isMember && !output.isFresh then parent.getD 0 else deeper parent
    writeItems column output (item :: items)
  | .object [] => writeEmpty '\x7b' '\x7d' output
  | .object (member :: members) => writeMembers (deeper parent) output (member :: members)

def writeItems (column : Nat) (output : Output) : List Json → Output
  | [] => output
  | item :: items =>
    let output := write (some column) false ((output.moveTo column).indent '-') item
    writeItems column output items

def writeMembers (column : Nat) (output : Output) : List (String × Json) → Output
  | [] => output
  | (name, value) :: members =>
    let output := output.moveTo column
    let output :=
      if Layout.isSimpleKey name then (writeText (some column) output name).attach ':'
      else
        let output := writeText (some column) (output.indent '?') name
        (output.moveTo column).indent ':'
    writeMembers column (write (some column) true output value) members

end

end Reindex.Yaml.Writer

namespace Reindex.Yaml

def text (value : Json) : String := ((Writer.write none false .empty value).moveTo 0).text

end Reindex.Yaml
