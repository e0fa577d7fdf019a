import Reindex.Change.Plan
import Reindex.Change.Queue
import Reindex.Dependency.Compilation

namespace Reindex

/-- Where requests go. Accepting a batch yields the new state and how many requests were taken. -/
structure Sink (σ : Type) where
  accept : σ → List Request → Except ChangeError (σ × Nat)

namespace Sink

def queue : Sink (Queue Request) :=
  ⟨fun queue requests => .ok (queue.enqueue requests, requests.length)⟩

/-- A queue that takes every request but admits to a limited number only. -/
def capped (limit : Nat) : Sink (Queue Request) :=
  ⟨fun queue requests => .ok (queue.enqueue requests, min limit requests.length)⟩

def refusing (reason : String) : Sink (Queue Request) := ⟨fun _ _ => .error (.queue reason)⟩

end Sink

structure Tracker (σ : Type) where
  publication : Publication
  sink : Sink σ
  state : σ

namespace Tracker

variable {σ α : Type}

/-- What is done to a tracker takes effect at once, and stays done if a later step fails. -/
abbrev Action (σ : Type) := ExceptT ChangeError (StateM (Tracker σ))

def Action.run (action : Action σ α) (tracker : Tracker σ) : Except ChangeError α × Tracker σ :=
  StateT.run (ExceptT.run action) tracker

def compiled (schema : Schema) (config : Config) (definitions : List Definition) :
    Except ChangeError Snapshot :=
  match (Compilation.compileDefinitions schema config definitions).outcome with
  | .error error => .error (.tracking error)
  | .ok snapshot => .ok snapshot

def ofDefinitions (schema : Schema) (config : Config) (definitions : List Definition)
    (sink : Sink σ) (state : σ) : Except ChangeError (Tracker σ) :=
  (compiled schema config definitions).map (fun snapshot => ⟨.first snapshot, sink, state⟩)

def rebuild (schema : Schema) (config : Config) (definitions : List Definition) :
    Action σ Unit := do
  let snapshot ← MonadExcept.ofExcept (compiled schema config definitions)
  modify (fun tracker =>
    { tracker with publication := tracker.publication.replace snapshot })

def plan (tracker : Tracker σ) (changes : List Change) : Except ChangeError (List Request) :=
  tracker.publication.snapshot.plan changes

/-- Plans a batch and hands it to the sink, unless there is nothing to do. Yields how many requests
were accepted. -/
def track (changes : List Change) : Action σ Nat := do
  let tracker ← get
  let requests ← MonadExcept.ofExcept (tracker.plan changes)
  if requests.isEmpty then return 0
  let (state, accepted) ← MonadExcept.ofExcept (tracker.sink.accept tracker.state requests)
  set { tracker with state }
  return accepted

end Tracker

end Reindex
