import Reindex.Yaml.Tag

namespace Reindex.Yaml

structure Properties (ρ : Type) where
  anchor : Option ρ
  tag : Option Tag

namespace Properties

variable {ρ : Type} (properties : Properties ρ)

def any : Bool := properties.anchor.isSome || properties.tag.isSome

end Properties

/-- Nodes whose anchors and aliases are of the type `ρ`. -/
inductive Tree (ρ : Type) where
  | aliasOf (name : ρ)
  | scalar (properties : Properties ρ) (style : Style) (text : String)
  | sequence (properties : Properties ρ) (items : List (Tree ρ))
  | mapping (properties : Properties ρ) (members : List (Tree ρ × Tree ρ))

namespace Tree

abbrev Written := Tree String

def emptyWith (properties : Properties String) : Written := scalar properties .plain ""

def empty : Written := emptyWith ⟨none, none⟩

end Tree

end Reindex.Yaml
