import Reindex.Yaml.Chars
import Reindex.Yaml.Scalar
import Reindex.Yaml.Token

namespace Reindex.Yaml.Layout

def isPrintable (c : Char) : Bool :=
  c == '\n' || (' ' ≤ c && c ≤ '~') ||
    ('\u00a0' ≤ c && c ≤ '\ufffd' && c != byteOrderMark) || 0x10000 ≤ c.toNat

def isSpace (c : Char) : Bool := c == ' '

def endsWord (c : Char) : Bool := isBlank c || isBreak c || c == '\x00'

variable (cs : List Char)

def isMultiline : Bool := cs.any isBreak

def hasPair (first second : Char → Bool) : Bool :=
  (cs.zip (cs.drop 1)).any (fun (a, b) => first a && second b)

def startsLikeIndicator : List Char → Bool
  | [] => false
  | c :: rest =>
    if c == '-' || c == '?' || c == ':' then rest.head?.all endsWord
    else isIndicator c

def looksLikeDocumentMark : Bool :=
  ['-', '-', '-'].isPrefixOf cs || ['.', '.', '.'].isPrefixOf cs

/-- A colon that would end a key, or a comment. -/
def hasInnerIndicator : Bool :=
  hasPair cs (· == ':') endsWord || cs.getLast? == some ':' || hasPair cs endsWord (· == '#')

def isPadded : Bool :=
  let outer (c : Char) : Bool := isSpace c || isBreak c
  cs.head?.any outer || cs.getLast?.any outer

/-- A special character has to be escaped, and so has a space at the end of a line. -/
def needsEscape : Bool := cs.any (fun c => !isPrintable c) || hasPair cs isSpace isBreak

def plainFits : Bool :=
  !(isMultiline cs || isPadded cs || needsEscape cs || startsLikeIndicator cs ||
    looksLikeDocumentMark cs || hasInnerIndicator cs)

def singleQuotedFits : Bool := !(needsEscape cs || hasPair cs isBreak isSpace)

def literalFits : Bool :=
  !cs.isEmpty && !needsEscape cs && !(cs.getLast?.any isSpace)

/-- A plain scalar with this text would be read as something else. -/
def isAmbiguous (text : String) : Bool :=
  Scalar.isPadded text || decide (Scalar.value? text ≠ some (.string text))

/-- Texts of several lines are literal, and plain ones are quoted where they would not be read
back. -/
def styleOf (text : String) : Style :=
  let cs := text.toList
  if cs.contains '\n' then
    if literalFits cs then .literal else .doubleQuoted
  else if !isAmbiguous text && plainFits cs then .plain
  else if singleQuotedFits cs then .singleQuoted
  else .doubleQuoted

def simpleKeyLimit : Nat := 128

def isSimpleKey (text : String) : Bool :=
  !isMultiline text.toList && text.utf8ByteSize ≤ simpleKeyLimit

end Reindex.Yaml.Layout
