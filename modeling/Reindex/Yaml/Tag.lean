import Reindex.Yaml.Token

namespace Reindex.Yaml

inductive Tag where
  | null
  | bool
  | int
  | float
  /-- A tag of the document itself, with its name. -/
  | own (name : String)
  | other
  deriving DecidableEq, Repr

namespace Tag

def coreLead : String := "tag:yaml.org,2002:"

/-- The tag with these octets. The name of an own tag follows its exclamation mark, unless the mark
is all there is. -/
def ofOctets (octets : Octets) : Tag :=
  match String.fromUTF8? (ByteArray.mk octets.toArray) with
  | none => other
  | some text =>
    if text = coreLead ++ "null" then null
    else if text = coreLead ++ "bool" then bool
    else if text = coreLead ++ "int" then int
    else if text = coreLead ++ "float" then float
    else match text.toList with
      | ['!'] => own "!"
      | '!' :: name => own (String.ofList name)
      | _ => other

end Tag

end Reindex.Yaml
