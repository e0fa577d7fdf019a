import Reindex.Yaml.Cursor

namespace Reindex.Yaml

/-- White space met so far: blanks, or line breaks of which the first may be escaped. A single break
is read as a space, and of several breaks the first is dropped. -/
inductive Gap where
  | blanks (cs : List Char)
  | breaks (first more : List Char)

namespace Gap

def none : Gap := blanks []

def isNone : Gap → Bool
  | blanks [] => true
  | _ => false

def endsLine : Gap → Bool
  | blanks _ => false
  | breaks _ _ => true

def addBlank (gap : Gap) (c : Char) : Gap :=
  match gap with
  | blanks cs => blanks (cs ++ [c])
  | breaks first more => breaks first more

def addBreak (gap : Gap) (c : Char) : Gap :=
  match gap with
  | blanks _ => breaks [c] []
  | breaks first more => breaks first (more ++ [c])

def joined : Gap → List Char
  | blanks cs => cs
  | breaks ['\n'] [] => [' ']
  | breaks ['\n'] more => more
  | breaks first more => first ++ more

/-- Reads on to the next character that is no white space. On later lines no tab may stand left of
the column `indent`. -/
def read (indent : Nat) : Nat → Gap → Cursor → Option (Gap × Cursor)
  | 0, _, _ => Option.none
  | fuel + 1, gap, cursor =>
    match cursor.readBreak? with
    | some (c, next) => read indent fuel (gap.addBreak c) next
    | Option.none =>
      match cursor.look? 0 with
      | some c =>
        if !isBlank c then some (gap, cursor)
        else if gap.endsLine && c == '\t' && cursor.column < indent then Option.none
        else read indent fuel (gap.addBlank c) (cursor.skip 1)
      | Option.none => some (gap, cursor)

end Gap

end Reindex.Yaml
