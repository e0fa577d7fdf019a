import Reindex.Json
import Reindex.Number.Shortest

namespace Reindex.Json

namespace Writer

def escape (c : Char) : List Char :=
  match c with
  | '"' => ['\\', '"']
  | '\\' => ['\\', '\\']
  | '\x08' => ['\\', 'b']
  | '\x0c' => ['\\', 'f']
  | '\n' => ['\\', 'n']
  | '\r' => ['\\', 'r']
  | '\t' => ['\\', 't']
  | c =>
    if c.toNat < 0x20 then
      ['\\', 'u', '0', '0', Nat.digitChar (c.toNat / 16), Nat.digitChar (c.toNat % 16)]
    else [c]

def quote (text : String) : String :=
  String.ofList ('"' :: text.toList.flatMap escape ++ ['"'])

end Writer

def JsonNumber.text : JsonNumber → String
  | .whole value => toString value
  | .binary value => Number.Shortest.text value

mutual

def compact : Json → String
  | null => "null"
  | bool value => toString value
  | number value => JsonNumber.text value
  | string value => Writer.quote value
  | array items => "[" ++ compactItems items ++ "]"
  | object members => "\x7b" ++ compactMembers members ++ "\x7d"

def compactItems : List Json → String
  | [] => ""
  | [item] => compact item
  | item :: items => compact item ++ "," ++ compactItems items

def compactMembers : List (String × Json) → String
  | [] => ""
  | [(name, value)] => Writer.quote name ++ ":" ++ compact value
  | (name, value) :: members =>
    Writer.quote name ++ ":" ++ compact value ++ "," ++ compactMembers members

end

namespace Writer

def newLine (level : Nat) : String := String.ofList ('\n' :: List.replicate (2 * level) ' ')

mutual

def indented (level : Nat) : Json → String
  | array (item :: items) =>
    "[" ++ indentedItems (level + 1) (item :: items) ++ newLine level ++ "]"
  | object (member :: members) =>
    "\x7b" ++ indentedMembers (level + 1) (member :: members) ++ newLine level ++ "\x7d"
  | value => compact value

def indentedItems (level : Nat) : List Json → String
  | [] => ""
  | [item] => newLine level ++ indented level item
  | item :: items => newLine level ++ indented level item ++ "," ++ indentedItems level items

def indentedMembers (level : Nat) : List (String × Json) → String
  | [] => ""
  | [(name, value)] => newLine level ++ quote name ++ ": " ++ indented level value
  | (name, value) :: members =>
    newLine level ++ quote name ++ ": " ++ indented level value ++ "," ++
      indentedMembers level members

end

end Writer

def pretty (value : Json) : String := Writer.indented 0 value

end Reindex.Json
