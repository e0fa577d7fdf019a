import Std.Data.ExtTreeMap
import Std.Data.ExtTreeSet
import Reindex.Path

namespace Reindex

abbrev Buckets (κ : Type) [Ord κ] [Std.TransOrd κ] := Std.ExtTreeMap κ (Std.ExtTreeSet Path)

namespace Buckets

variable {κ : Type} [Ord κ] [Std.TransOrd κ] (buckets : Buckets κ)

/-- The bucket of the key is made with its first path. -/
def add (key : κ) (path : Path) : Buckets κ :=
  buckets.insert key ((buckets.getD key ∅).insert path)

def under (key : κ) : List Path := (buckets.getD key ∅).toList

def groups : List (κ × List Path) := buckets.toList.map (fun (key, paths) => (key, paths.toList))

def size : Nat := buckets.values.foldr (fun paths size => paths.size + size) 0

end Buckets

end Reindex
