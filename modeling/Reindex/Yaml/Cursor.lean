import Reindex.Yaml.Chars

namespace Reindex.Yaml

/-- The characters still to be read, how many they are, and the place of the first of them. -/
structure Cursor where
  rest : List Char
  left : Nat
  index : Nat
  line : Nat
  column : Nat

namespace Cursor

variable (cursor : Cursor)

def ofText (text : String) : Cursor := ⟨text.toList, text.length, 0, 0, 0⟩

def look? (n : Nat) : Option Char := cursor.rest[n]?

def isAt (c : Char) : Bool := cursor.look? 0 == some c

def isBlankAt (n : Nat) : Bool := (cursor.look? n).any isBlank

def isEndAt (n : Nat) : Bool := (cursor.look? n).all (fun c => isBlank c || isBreak c)

def isLineEnd : Bool := (cursor.look? 0).all isBreak

def skip (count : Nat) : Cursor :=
  { cursor with
    rest := cursor.rest.drop count, left := cursor.left - count
    index := cursor.index + count, column := cursor.column + count }

def readWhile (isMember : Char → Bool) : List Char × Cursor :=
  let run := cursor.rest.takeWhile isMember
  (run, cursor.skip run.length)

def skipWhile (isMember : Char → Bool) : Cursor := (cursor.readWhile isMember).2

def skipBlanks : Cursor := cursor.skipWhile isBlank

def nextLine (count : Nat) : Cursor :=
  ⟨cursor.rest.drop count, cursor.left - count, cursor.index + count, cursor.line + 1, 0⟩

/-- A line break and the start of the next line. All breaks but the two separators read alike. -/
def readBreak? : Option (Char × Cursor) :=
  match cursor.rest with
  | '\r' :: '\n' :: _ => some ('\n', cursor.nextLine 2)
  | c :: _ =>
    if !isBreak c then none
    else if c == '\u2028' || c == '\u2029' then some (c, cursor.nextLine 1)
    else some ('\n', cursor.nextLine 1)
  | [] => none

def skipBreak : Cursor := (cursor.readBreak?.map Prod.snd).getD cursor

def isMark (mark : List Char) : Bool :=
  cursor.column == 0 && mark.isPrefixOf cursor.rest && cursor.isEndAt mark.length

def isDocumentStart : Bool := cursor.isMark ['-', '-', '-']

def isDocumentEnd : Bool := cursor.isMark ['.', '.', '.']

def isDocumentMark : Bool := cursor.isDocumentStart || cursor.isDocumentEnd

def finishLine? : Option Cursor :=
  let cursor := cursor.skipBlanks
  let cursor := if cursor.isAt '#' then cursor.skipWhile (fun c => !isBreak c) else cursor
  if cursor.isLineEnd then some cursor.skipBreak else none

end Cursor

end Reindex.Yaml
