import Std.Data.ExtTreeMap
import Reindex.Change.Request

namespace Reindex

class Queueable (α : Type) where
  request : α → Request

namespace Queueable

instance : Queueable Request := ⟨id⟩

instance : Queueable QueueItem := ⟨QueueItem.request⟩

variable {α : Type} [Queueable α]

def entity (item : α) : EntityName := (request item).entity

def operation (item : α) : Operation := (request item).operation

end Queueable

structure Tally where
  index : Nat
  delete : Nat
  deriving DecidableEq, Repr

namespace Tally

def zero : Tally := ⟨0, 0⟩

def of (tally : Tally) : Operation → Nat
  | .index => tally.index
  | .delete => tally.delete

def add (tally : Tally) : Operation → Tally
  | .index => { tally with index := tally.index + 1 }
  | .delete => { tally with delete := tally.delete + 1 }

end Tally

/-- Items in the order of their arrival. The tallies count all that were enqueued since the queue
was last cleared, drained or not. -/
structure Queue (α : Type) where
  items : List α
  tallies : Std.ExtTreeMap EntityName Tally
  deriving DecidableEq

namespace Queue

variable {α : Type} (queue : Queue α)

def empty : Queue α := ⟨[], ∅⟩

instance : Inhabited (Queue α) := ⟨empty⟩

def length : Nat := queue.items.length

def record [Queueable α] (tallies : Std.ExtTreeMap EntityName Tally) (item : α) :
    Std.ExtTreeMap EntityName Tally :=
  tallies.insert (Queueable.entity item)
    ((tallies.getD (Queueable.entity item) Tally.zero).add (Queueable.operation item))

def enqueue [Queueable α] (items : List α) : Queue α where
  items := queue.items ++ items
  tallies := items.foldl record queue.tallies

def drain (count : Nat) : List α × Queue α :=
  (queue.items.take count, { queue with items := queue.items.drop count })

def drainAll : List α × Queue α := (queue.items, { queue with items := [] })

def clear (_ : Queue α) : Queue α := empty

def enqueuedCount (entity : EntityName) (operation : Operation) : Nat :=
  (queue.tallies.getD entity Tally.zero).of operation

end Queue

end Reindex
