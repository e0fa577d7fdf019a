import Reindex.Path

namespace Reindex

/-- A change of `property` on an instance of `entity` affects the roots at the start of `backPath`,
which leads to the instance. -/
structure UpdateFact where
  entity : EntityName
  property : String
  backPath : Path
  deriving DecidableEq, Repr

/-- Deleting an instance of `entity` cuts the reference at the end of `backPath`. -/
structure DeleteFact where
  entity : EntityName
  backPath : Path
  deriving DecidableEq, Repr

/-- The facts of one hop; there is a deletion only for a reference. -/
structure Entry where
  update : UpdateFact
  deletion : Option DeleteFact
  deriving DecidableEq, Repr

namespace Entry

def ofHop (before : Path) (hop : Property) : Entry where
  update := ⟨hop.owner, hop.name, before⟩
  deletion := hop.range.target?.map (fun target => ⟨target, before.child hop⟩)

def ofPath? (path : Path) : Option Entry := do ofHop (← path.parent?) (← path.last?)

def chainFrom (before : Path) : List Property → List Entry
  | [] => []
  | hop :: hops => chainFrom (before.child hop) hops ++ [ofHop before hop]

/-- The entries of all hops, the last hop first. -/
def chain (path : Path) : List Entry := chainFrom (Path.ofRoot path.root) path.hops

def display (entry : Entry) : String :=
  let update := "update " ++ entry.update.entity ++ "." ++ entry.update.property ++ " -> " ++
    entry.update.backPath.display
  match entry.deletion with
  | none => update
  | some deletion =>
    update ++ ", delete " ++ deletion.entity ++ " -> " ++ deletion.backPath.display

end Entry

end Reindex
