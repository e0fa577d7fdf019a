import Reindex.Change.Event
import Reindex.Change.Request
import Reindex.Dependency.Snapshot

namespace Reindex.Snapshot

variable (snapshot : Snapshot)

def dependents (impact : Impact) (entity : EntityName) (id : String) : List Request :=
  impact.groups.flatMap (fun (root, paths) =>
    (paths.filter (fun path => !path.isEmpty)).map (Request.ofDependents root · entity id))

def ownRequest (entity : EntityName) (id : String) (operation : Operation) : List Request :=
  if snapshot.catalog.isDirectlyIndexed entity then [.ofInstance entity id operation] else []

def requestsOf (change : Change) : List Request :=
  if !snapshot.catalog.isAffected change.entity then []
  else match change with
    | .created entity id => snapshot.ownRequest entity id .index
    | .updated entity id properties =>
      snapshot.ownRequest entity id .index ++
        dependents (snapshot.impactOfUpdate entity properties) entity id
    | .deleted entity id =>
      snapshot.ownRequest entity id .delete ++
        dependents (snapshot.impactOfDelete entity) entity id

/-- The requests of one change after the other. A change without instance id spoils its batch. -/
def gather (planned : List Request) : List Change → Except ChangeError (List Request)
  | [] => .ok planned
  | change :: changes =>
    if change.id == "" then .error (.invalidEvent (.missingId change.entity))
    else gather (planned ++ snapshot.requestsOf change) changes

/-- The requests of a batch, each in the place where it is first asked for. -/
def plan (changes : List Change) : Except ChangeError (List Request) :=
  (snapshot.gather [] changes).map List.eraseDups

end Reindex.Snapshot
