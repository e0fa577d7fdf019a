import Reindex.Document
import Reindex.Yaml.Node
import Reindex.Yaml.Scalar

namespace Reindex.Yaml.Node

def text? : Node → Option String
  | scalar _ _ text => some text
  | _ => none

/-- The text of a scalar that is plain, or literal under a tag. -/
def plainText? (tag : Tag) : Node → Option String
  | scalar _ .plain text => some text
  | scalar (some given) .literal text => if given = tag then some text else none
  | _ => none

def natural? (node : Node) : Option Nat := do
  let n ← Scalar.natural? (← node.plainText? .int)
  if n < UInt64.size then some n else none

def flag? (node : Node) : Option Bool := (node.plainText? .bool).bind Scalar.flag?

/-- The text of a scalar, or the name of the tag on one without content. -/
def choice? : Node → Option String
  | scalar (some (.own name)) style text =>
    if style = .plain && (text = "" || Scalar.isNull text) then some name else none
  | scalar _ _ text => some text
  | _ => none

def present? : Node → Option (Option Node)
  | scalar tag .plain text =>
    match tag with
    | some .null => if Scalar.isNull text then some none else none
    | some tag => some (some (scalar (some tag) .plain text))
    | none =>
      if text = "" || Scalar.isNull text then some none
      else some (some (scalar none .plain text))
  | node => some (some node)

def isEmptyPlain : Node → Bool
  | scalar _ .plain "" => true
  | _ => false

def items? : Node → Option (List Node)
  | sequence _ items => some items
  | node => if node.isEmptyPlain then some [] else none

def members? : Node → Option (List (String × Node))
  | mapping _ members => members.mapM (fun (key, value) => key.text?.map (·, value))
  | node => if node.isEmptyPlain then some [] else none

def record? (node : Node) : Option (Record Node) := node.members?.map .named

def isOwn : Option Tag → Bool
  | some (.own _) => true
  | _ => false

def scalarValue? (tag : Option Tag) (style : Style) (text : String) : Option Json :=
  match tag with
  | some .null => if Scalar.isNull text then some .null else none
  | some .bool => (Scalar.flag? text).map Json.bool
  | some .int => (Scalar.integer? text).bind
    (fun n => if Scalar.fitsValue n then some (.number (.whole n)) else none)
  | some .float => Scalar.float? text
  | some (.own _) => none
  | some .other => some (.string text)
  | none => if style = .plain then Scalar.value? text else some (.string text)

mutual

def value? : Node → Option Json
  | scalar tag style text => scalarValue? tag style text
  | sequence tag items => do if isOwn tag then none else some (.array (← itemValues? items))
  | mapping tag members => do if isOwn tag then none else some (.object (← memberValues? members))

def itemValues? : List Node → Option (List Json)
  | [] => some []
  | item :: items => do some ((← value? item) :: (← itemValues? items))

def memberValues? : List (Node × Node) → Option (List (String × Json))
  | [] => some []
  | (key, value) :: members => do
    some ((← key.text?, ← value? value) :: (← memberValues? members))

end

instance : Document Node where
  text? := text?
  natural? := natural?
  flag? := flag?
  choice? := choice?
  present? := present?
  items? := items?
  members? := members?
  record? := record?
  value? node := node.value?.map Json.Normal.ofJson

end Reindex.Yaml.Node
