import Reindex.Yaml.Chars

namespace Reindex.Yaml

structure Output where
  text : String
  column : Nat
  /-- No space is needed before the next indicator. -/
  isSpaced : Bool
  /-- The line holds nothing but indentation and indicators that count as such. -/
  isFresh : Bool

namespace Output

variable (output : Output)

def empty : Output := ⟨"", 0, true, true⟩

def put (c : Char) : Output :=
  { output with text := output.text.push c, column := output.column + 1 }

def breakLine (c : Char) : Output := { output with text := output.text.push c, column := 0 }

def spaceOut : Output := if output.isSpaced then output else output.put ' '

def attach (c : Char) : Output := { output.put c with isSpaced := false, isFresh := false }

def indicate (c : Char) : Output := output.spaceOut.attach c

/-- Writes an indicator that counts as indentation. -/
def indent (c : Char) : Output :=
  { output.spaceOut.put c with isSpaced := false, isFresh := output.isFresh }

/-- Goes to a column, on a new line if the current one is in use. -/
def moveTo (column : Nat) : Output :=
  let inUse := !output.isFresh || column < output.column ||
    (output.column == column && !output.isSpaced)
  let output := if inUse then output.breakLine '\n' else output
  let padding := String.ofList (List.replicate (column - output.column) ' ')
  ⟨output.text ++ padding, max column output.column, true, true⟩

end Output

end Reindex.Yaml
