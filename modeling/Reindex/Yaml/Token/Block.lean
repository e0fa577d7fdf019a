import Reindex.Yaml.Cursor

namespace Reindex.Yaml.Block

/-- What is kept of the line breaks at the end: none, the first, or all. -/
inductive Chomping where
  | strip
  | clip
  | keep

structure Header where
  chomping : Chomping
  increment : Option Nat

def readChomping (cursor : Cursor) : Option (Chomping × Cursor) :=
  match cursor.look? 0 with
  | some '+' => some (.keep, cursor.skip 1)
  | some '-' => some (.strip, cursor.skip 1)
  | _ => none

def readIncrement (cursor : Cursor) : Option (Option Nat × Cursor) :=
  match cursor.look? 0 with
  | some c =>
    if c == '0' then none
    else if c.isDigit then some (some (c.toNat - '0'.toNat), cursor.skip 1)
    else some (none, cursor)
  | none => some (none, cursor)

def readHeader (cursor : Cursor) : Option (Header × Cursor) := do
  match readChomping cursor with
  | some (chomping, next) =>
    let (increment, next) ← readIncrement next
    some (⟨chomping, increment⟩, ← next.finishLine?)
  | none =>
    let (increment, next) ← readIncrement cursor
    let (chomping, next) := (readChomping next).getD (.clip, next)
    some (⟨chomping, increment⟩, ← next.finishLine?)

/-- Passes over empty lines and the indentation of the next line, up to the column `indent` if it is
known. Yields the breaks passed and the greatest column reached. -/
def readEmpty (indent : Option Nat) : Nat → Nat → Cursor → Option (List Char × Nat × Cursor)
  | 0, _, _ => none
  | fuel + 1, greatest, cursor =>
    let spaces := (cursor.rest.takeWhile (· == ' ')).length
    let cursor := cursor.skip (match indent with
      | some column => min spaces (column - cursor.column)
      | none => spaces)
    let greatest := max greatest cursor.column
    if cursor.isAt '\t' && indent.all (fun column => cursor.column < column) then none
    else match cursor.readBreak? with
      | none => some ([], greatest, cursor)
      | some (c, next) => do
        let (breaks, rest) ← readEmpty indent fuel greatest next
        some (c :: breaks, rest)

/-- How lines go on behind some text: the break of the last line, whether that line started with a
blank, and the breaks of empty lines. -/
structure Pending where
  lineBreak : List Char
  wasBlank : Bool
  breaks : List Char

def Pending.joined (pending : Pending) (literal isBlank : Bool) : List Char :=
  if !literal && pending.lineBreak == ['\n'] && !pending.wasBlank && !isBlank then
    if pending.breaks.isEmpty then [' '] else pending.breaks
  else pending.lineBreak ++ pending.breaks

def Pending.chomped (pending : Pending) : Chomping → List Char
  | .strip => []
  | .clip => pending.lineBreak
  | .keep => pending.lineBreak ++ pending.breaks

def readLines (literal : Bool) (chomping : Chomping) (indent : Nat) :
    Nat → Pending → Cursor → Option (List Char × Cursor)
  | 0, _, _ => none
  | fuel + 1, pending, cursor =>
    if cursor.column != indent || cursor.rest.isEmpty then some (pending.chomped chomping, cursor)
    else do
      let isBlank := cursor.isBlankAt 0
      let (line, next) := cursor.readWhile (fun c => !isBreak c)
      let (lineBreak, next) := match next.readBreak? with
        | some (c, next) => ([c], next)
        | none => ([], next)
      let (breaks, _, next) ← readEmpty (some indent) (next.left + 1) 0 next
      let (text, next) ← readLines literal chomping indent fuel ⟨lineBreak, isBlank, breaks⟩ next
      some (pending.joined literal isBlank ++ line ++ text, next)

/-- Reads a scalar from its indicator on. `parent` is the column of the enclosing collection. -/
def read (literal : Bool) (parent : Option Nat) (cursor : Cursor) :
    Option (List Char × Cursor) := do
  let (header, next) ← readHeader (cursor.skip 1)
  let known := header.increment.map (parent.getD 0 + ·)
  let (breaks, greatest, next) ← readEmpty known (next.left + 1) 0 next
  let least := max 1 ((parent.map (· + 1)).getD 0)
  let indent := known.getD (max greatest least)
  readLines literal header.chomping indent (next.left + 1) ⟨[], false, breaks⟩ next

end Reindex.Yaml.Block
