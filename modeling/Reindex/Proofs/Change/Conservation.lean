import Mathlib.Algebra.BigOperators.Group.List.Lemmas
import Mathlib.Algebra.GroupWithZero.Nat
import Reindex.Change.Queue
import Reindex.Proofs.Table

namespace Reindex

theorem Tally.of_add (tally : Tally) (added operation : Operation) :
    (tally.add added).of operation = tally.of operation + if added = operation then 1 else 0 := by
  cases added <;> cases operation <;> rfl

namespace Queueable

variable {α : Type} [Queueable α]

def counts (entity : EntityName) (operation : Operation) (item : α) : Bool :=
  Queueable.entity item == entity && Queueable.operation item == operation

theorem countP_counts (items : List α) (entity : EntityName) :
    items.countP (counts entity .index) + items.countP (counts entity .delete) =
      (items.map Queueable.entity).count entity := by
  induction items with
  | nil => rfl
  | cons item items ih =>
    have hone : (if counts entity .index item then 1 else 0) +
        (if counts entity .delete item then 1 else 0) =
          if Queueable.entity item == entity then 1 else 0 := by
      cases hroot : Queueable.entity item == entity <;>
        cases hoperation : Queueable.operation item <;> simp [counts, hroot, hoperation]
    rw [List.countP_cons, List.countP_cons, List.map_cons, List.count_cons, ← ih, ← hone]
    omega

end Queueable

namespace Queue

inductive Call (α : Type) where
  | enqueue (items : List α)
  | drain (count : Nat)
  | drainAll
  | clear

variable {α : Type} [Queueable α]

/-- The items that a call takes out, and the queue after it. -/
def call (queue : Queue α) : Call α → List α × Queue α
  | .enqueue items => ([], queue.enqueue items)
  | .drain count => queue.drain count
  | .drainAll => queue.drainAll
  | .clear => ([], queue.clear)

/-- A queue, with what was enqueued and drained, call by call, since it was last cleared. -/
structure History (α : Type) where
  queue : Queue α
  enqueued : List (List α)
  drained : List (List α)

namespace History

def blank : History α := ⟨.empty, [], []⟩

def step (history : History α) (call : Call α) : History α :=
  let (taken, queue) := history.queue.call call
  match call with
  | .enqueue items => { history with queue, enqueued := history.enqueued ++ [items] }
  | .drain _ | .drainAll => { history with queue, drained := history.drained ++ [taken] }
  | .clear => ⟨queue, [], []⟩

def run (calls : List (Call α)) : History α := calls.foldl step blank

end History

theorem getD_record (tallies : Std.ExtTreeMap EntityName Tally) (item : α)
    (entity : EntityName) (operation : Operation) :
    ((record tallies item).getD entity .zero).of operation =
      (tallies.getD entity .zero).of operation +
        if Queueable.counts entity operation item then 1 else 0 := by
  unfold record
  rw [Std.ExtTreeMap.getD_insert]
  split
  · next hentity =>
    rw [Std.LawfulEqOrd.compare_eq_iff_eq] at hentity
    subst hentity
    rw [Tally.of_add]
    simp [Queueable.counts]
  · next hentity =>
    rw [Std.LawfulEqOrd.compare_eq_iff_eq] at hentity
    simp [Queueable.counts, hentity]

theorem enqueuedCount_enqueue (queue : Queue α) (items : List α) (entity : EntityName)
    (operation : Operation) :
    (queue.enqueue items).enqueuedCount entity operation =
      queue.enqueuedCount entity operation + items.countP (Queueable.counts entity operation) := by
  unfold enqueuedCount enqueue
  dsimp only
  generalize queue.tallies = tallies
  induction items generalizing tallies with
  | nil => rfl
  | cons item items ih =>
    rw [List.foldl_cons, ih, getD_record, List.countP_cons]
    omega

theorem mem_tallies_enqueue (queue : Queue α) (items : List α) (entity : EntityName) :
    entity ∈ (queue.enqueue items).tallies ↔
      entity ∈ queue.tallies ∨ ∃ item ∈ items, Queueable.entity item = entity := by
  unfold enqueue
  dsimp only
  generalize queue.tallies = tallies
  induction items generalizing tallies with
  | nil => simp
  | cons item items ih =>
    rw [List.foldl_cons, ih, record, Std.ExtTreeMap.mem_insert,
      Std.LawfulEqOrd.compare_eq_iff_eq, List.exists_mem_cons_iff, or_assoc, or_left_comm]

def total (queue : Queue α) : Nat :=
  (queue.tallies.values.map fun tally => tally.index + tally.delete).sum

omit [Queueable α] in
theorem total_eq_sum_keys (queue : Queue α) :
    queue.total = (queue.tallies.keys.map fun entity =>
      queue.enqueuedCount entity .index + queue.enqueuedCount entity .delete).sum := by
  rw [total, Table.values_eq_map_keys queue.tallies .zero, List.map_map]
  rfl

/-- The tallies of a queue count items, and there is one for each type that is asked about. -/
structure Tallied (queue : Queue α) (items : List α) : Prop where
  counted : ∀ entity operation,
    queue.enqueuedCount entity operation = items.countP (Queueable.counts entity operation)
  listed : ∀ entity : EntityName,
    entity ∈ queue.tallies ↔ ∃ item ∈ items, Queueable.entity item = entity

namespace Tallied

theorem empty : Tallied (.empty : Queue α) [] where
  counted := by
    intro entity operation
    cases operation <;> simp [enqueuedCount, Queue.empty, Tally.zero, Tally.of]
  listed := by simp [Queue.empty]

theorem enqueue {queue : Queue α} {items : List α} (h : queue.Tallied items)
    (added : List α) : (queue.enqueue added).Tallied (items ++ added) where
  counted := by
    intro entity operation
    rw [enqueuedCount_enqueue, h.counted, List.countP_append]
  listed := by
    intro entity
    rw [mem_tallies_enqueue, h.listed]
    simp [or_and_right, exists_or]

/-- Every request is tallied under its type and operation, and under nothing else. -/
theorem total_eq {queue : Queue α} {items : List α} (h : queue.Tallied items) :
    queue.total = items.length := by
  have hcount : ∀ entity, queue.enqueuedCount entity .index + queue.enqueuedCount entity .delete =
      (items.map Queueable.entity).count entity := by
    intro entity
    rw [h.counted, h.counted, Queueable.countP_counts]
  -- every type of an item has a tally and no other type has one
  have hkeys : queue.tallies.keys.Perm (items.map Queueable.entity).dedup := by
    rw [List.perm_ext_iff_of_nodup Std.ExtTreeMap.nodup_keys (List.nodup_dedup _)]
    intro entity
    rw [Std.ExtTreeMap.mem_keys, h.listed, List.mem_dedup, List.mem_map]
  calc queue.total
      = (queue.tallies.keys.map fun entity => (items.map Queueable.entity).count entity).sum := by
        rw [total_eq_sum_keys]
        simp only [hcount]
    _ = ((items.map Queueable.entity).dedup.map
          fun entity => (items.map Queueable.entity).count entity).sum := (hkeys.map _).sum_eq
    _ = items.length := by rw [List.sum_map_count_dedup_eq_length, List.length_map]

end Tallied

/-- Everything enqueued was drained or waits, in order, and is tallied. -/
structure History.Balanced (history : History α) : Prop where
  conserved : history.drained.flatten ++ history.queue.items = history.enqueued.flatten
  tallied : history.queue.Tallied history.enqueued.flatten

namespace History.Balanced

theorem blank : Balanced (.blank : History α) where
  conserved := rfl
  tallied := Tallied.empty

theorem step {history : History α} (h : history.Balanced) (call : Call α) :
    (history.step call).Balanced := by
  cases call with
  | enqueue items =>
    refine ⟨?_, ?_⟩
    · change history.drained.flatten ++ (history.queue.items ++ items) =
        (history.enqueued ++ [items]).flatten
      rw [← List.append_assoc, h.conserved, List.flatten_concat]
    · change (history.queue.enqueue items).Tallied (history.enqueued ++ [items]).flatten
      rw [List.flatten_concat]
      exact h.tallied.enqueue items
  | drain count =>
    refine ⟨?_, h.tallied.counted, h.tallied.listed⟩
    change (history.drained ++ [history.queue.items.take count]).flatten ++
      history.queue.items.drop count = history.enqueued.flatten
    rw [List.flatten_concat, List.append_assoc, List.take_append_drop, h.conserved]
  | drainAll =>
    refine ⟨?_, h.tallied.counted, h.tallied.listed⟩
    change (history.drained ++ [history.queue.items]).flatten ++ [] = history.enqueued.flatten
    rw [List.flatten_concat, List.append_nil, h.conserved]
  | clear => exact blank

theorem foldl {history : History α} (h : history.Balanced) (calls : List (Call α)) :
    (calls.foldl History.step history).Balanced := by
  induction calls generalizing history with
  | nil => exact h
  | cons call calls ih => exact ih (h.step call)

end History.Balanced

/-- After any calls, what was drained since the queue was last cleared and then what still waits is
what was enqueued since then, in order. A drain takes as many items as it may and as there are.
Each tally counts the items enqueued of its entity type and operation, so that all tallies
together count what was drained and what waits. -/
theorem run_conserves (calls : List (Call α)) :
    (History.run calls).drained.flatten ++ (History.run calls).queue.items =
        (History.run calls).enqueued.flatten ∧
      (∀ count, ((History.run calls).queue.drain count).1.length =
        min count (History.run calls).queue.length) ∧
      (∀ entity operation, (History.run calls).queue.enqueuedCount entity operation =
        (History.run calls).enqueued.flatten.countP
          fun item => Queueable.entity item = entity ∧ Queueable.operation item = operation) ∧
      (History.run calls).queue.total =
        (History.run calls).drained.flatten.length + (History.run calls).queue.length := by
  have hbalanced : (History.run calls).Balanced := History.Balanced.blank.foldl calls
  refine ⟨hbalanced.conserved, fun count => List.length_take, fun entity operation => ?_, ?_⟩
  · rw [hbalanced.tallied.counted]
    apply List.countP_congr
    simp [Queueable.counts]
  · rw [hbalanced.tallied.total_eq, ← hbalanced.conserved, List.length_append]
    rfl

end Queue

end Reindex
