import Reindex.Yaml.Token.Gap

namespace Reindex.Yaml.Plain

/-- Where a plain scalar stands: inside a flow collection or not, and the least column of its later
lines. -/
structure Place where
  inFlow : Bool
  indent : Nat

def isForbiddenColon (place : Place) (cursor : Cursor) : Bool :=
  place.inFlow && cursor.isAt ':' &&
    (cursor.look? 1).any (fun c => isFlowIndicator c || c == '?')

def isStop (place : Place) (cursor : Cursor) : Bool :=
  (cursor.isAt ':' && cursor.isEndAt 1) ||
    (place.inFlow && (cursor.look? 0).any isFlowIndicator)

/-- The text of a scalar, the place behind the white space after it, and whether that place is on a
new line. -/
structure Reading where
  text : List Char
  next : Cursor
  newLine : Bool

/-- Reads on behind some white space, which belongs to the text only if more of it follows. -/
def readFrom (place : Place) : Nat → Gap → Cursor → Option Reading
  | 0, _, _ => none
  | fuel + 1, gap, cursor =>
    let stop : Option Reading := some ⟨[], cursor, gap.endsLine⟩
    match cursor.look? 0 with
    | none => stop
    | some c =>
      if !gap.isNone && (cursor.isDocumentMark || c == '#') then stop
      else if isBlank c || isBreak c then do
        let (gap, next) ← Gap.read place.indent (cursor.left + 1) gap cursor
        if !place.inFlow && next.column < place.indent then some ⟨[], next, gap.endsLine⟩
        else readFrom place fuel gap next
      else if isForbiddenColon place cursor then none
      else if isStop place cursor then stop
      else do
        let more ← readFrom place fuel .none (cursor.skip 1)
        some { more with text := gap.joined ++ c :: more.text }

def read (place : Place) (cursor : Cursor) : Option Reading :=
  readFrom place (2 * cursor.left + 1) .none cursor

end Reindex.Yaml.Plain
