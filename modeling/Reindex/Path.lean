import Reindex.Entity
import Reindex.Text.Segments

namespace Reindex

/-- A root entity type and the hops taken from it. Without hops it denotes the root document. -/
structure Path where
  root : EntityName
  hops : List Property
  deriving DecidableEq, Repr

namespace Path

variable (path : Path)

def ofRoot (root : EntityName) : Path := ⟨root, []⟩

/-- Each hop is owned by the type reached so far, so only the last one may hold a scalar. -/
def chainedFrom (owner : EntityName) : List Property → Bool
  | [] => true
  | hop :: rest =>
    hop.owner == owner &&
      match hop.range.target? with
      | some target => chainedFrom target rest
      | none => rest.isEmpty

def IsChained : Prop := chainedFrom path.root path.hops = true

instance : Decidable path.IsChained := inferInstanceAs (Decidable (_ = true))

def ofHops? (root : EntityName) (hops : List Property) : Option Path :=
  if chainedFrom root hops then some ⟨root, hops⟩ else none

def length : Nat := path.hops.length

def isEmpty : Bool := path.hops.isEmpty

def last? : Option Property := path.hops.getLast?

def range? : Option Range := path.last?.map Property.range

/-- The type that owns a further hop; none after a scalar. -/
def reached? : Option EntityName :=
  match path.last? with
  | none => some path.root
  | some hop => hop.range.target?

def take (count : Nat) : Path := ⟨path.root, path.hops.take count⟩

def parent? : Option Path :=
  if path.hops.isEmpty then none else some ⟨path.root, path.hops.dropLast⟩

def ancestors : List Path := (List.range path.length).reverse.map path.take

def child (hop : Property) : Path := ⟨path.root, path.hops ++ [hop]⟩

def startsWith (other : Path) : Bool :=
  path.root == other.root && other.hops.isPrefixOf path.hops

def dotted : String :=
  String.ofList (Text.Segments.join '.' (path.hops.map (fun hop => hop.name.toList)))

def display : String := if path.isEmpty then path.root else path.root ++ "." ++ path.dotted

def targets : List EntityName := path.hops.filterMap (fun hop => hop.range.target?)

def order : Path → Path → Ordering := compareLex (compareOn root) (compareOn hops)

theorem eq_of_order {p q : Path} (h : order p q = .eq) : p = q := by
  simp only [order, compareLex, compareOn, Ordering.then_eq_eq, Std.LawfulEqOrd.compare_eq_iff_eq]
    at h
  cases p
  cases q
  simp_all

instance : Ord Path := ⟨order⟩

instance : Std.TransOrd Path :=
  inferInstanceAs (Std.TransCmp (compareLex (compareOn root) (compareOn hops)))

instance : Std.LawfulEqOrd Path where
  compare_self := Std.ReflCmp.compare_self
  eq_of_compare := eq_of_order

end Path

end Reindex
