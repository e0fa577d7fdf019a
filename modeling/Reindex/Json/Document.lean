import Reindex.Document

namespace Reindex.Json

def text? : Json → Option String
  | string text => some text
  | _ => none

def natural? : Json → Option Nat
  | number (.whole value) => if 0 ≤ value then some value.toNat else none
  | _ => none

def flag? : Json → Option Bool
  | bool value => some value
  | _ => none

def choice? : Json → Option String
  | string name => some name
  | object [(name, null)] => some name
  | _ => none

def present? : Json → Option (Option Json)
  | null => some none
  | value => some (some value)

def items? : Json → Option (List Json)
  | array items => some items
  | _ => none

def members? : Json → Option (List (String × Json))
  | object members => some members
  | _ => none

def record? : Json → Option (Record Json)
  | object members => some (.named members)
  | array items => some (.positional items)
  | _ => none

instance : Document Json where
  text? := text?
  natural? := natural?
  flag? := flag?
  choice? := choice?
  present? := present?
  items? := items?
  members? := members?
  record? := record?
  value? value := some (Normal.ofJson value)

/-- The alternative that a tag names, and the record without the tag. A positional record has its
tag first. -/
def tagged? (tag : String) : Json → Option (String × Json)
  | object members =>
    match members.partition (fun member => member.1 == tag) with
    | ([(_, string name)], rest) => some (name, object rest)
    | _ => none
  | array (string name :: rest) => some (name, array rest)
  | _ => none

def alternative? : Json → Option (String × Json)
  | object [member] => some member
  | _ => none

end Reindex.Json
