import Mathlib.Data.List.Nodup
import Reindex.Proofs.Dependency.Catalog

namespace Reindex.Catalog

/-- The answer for an index whose entity type or name is taken. -/
def refusal (policy : DuplicatePolicy) (index : Index) : Except TrackingError Bool :=
  match policy with
  | .warn => .ok false
  | .reject => .error (.duplicateDefinition index.entity index.name)

def call (catalog : Catalog) (index : Index) : Except TrackingError Bool × Catalog :=
  ((catalog.register index).1.map fun registration => registration == .added,
    (catalog.register index).2)

def run (catalog : Catalog) : List Index → List (Index × Except TrackingError Bool) × Catalog
  | [] => ([], catalog)
  | index :: indexes =>
    let (answer, next) := catalog.call index
    let (log, last) := next.run indexes
    ((index, answer) :: log, last)

def added : List (Index × Except TrackingError Bool) → List Index
  | [] => []
  | (index, .ok true) :: log => index :: added log
  | _ :: log => added log

def history (policy : DuplicatePolicy) (indexes : List Index) :
    List (Index × Except TrackingError Bool) := ((empty policy).run indexes).1

def afterAll (policy : DuplicatePolicy) (indexes : List Index) : Catalog :=
  ((empty policy).run indexes).2

variable {catalog : Catalog} {policy : DuplicatePolicy} {listed : List Index} {index kept : Index}

theorem refusal_ne_ok_true (policy : DuplicatePolicy) (index : Index) :
    refusal policy index ≠ .ok true := by
  cases policy <;> simp [refusal]

theorem added_refusal (policy : DuplicatePolicy) (index : Index) :
    added [(index, refusal policy index)] = [] := by
  cases policy <;> rfl

theorem call_of_free (hfree : catalog.collision? index = none) :
    catalog.call index = (.ok true, catalog.add index) := by
  simp only [call, register, hfree]
  rfl

theorem call_of_taken (htaken : catalog.collision? index = some kept) :
    catalog.call index = (refusal catalog.policy index, catalog) := by
  unfold call register refusal
  rw [htaken]
  cases catalog.policy <;> rfl

theorem run_cons (catalog : Catalog) (index : Index) (indexes : List Index) :
    catalog.run (index :: indexes) =
      ((index, (catalog.call index).1) :: ((catalog.call index).2.run indexes).1,
        ((catalog.call index).2.run indexes).2) := rfl

theorem added_cons (entry : Index × Except TrackingError Bool)
    (log : List (Index × Except TrackingError Bool)) :
    added (entry :: log) = added [entry] ++ added log := by
  obtain ⟨index, answer⟩ := entry
  cases answer with
  | error error => rfl
  | ok accepted => cases accepted <;> rfl

theorem map_fst_run (catalog : Catalog) (indexes : List Index) :
    (catalog.run indexes).1.map Prod.fst = indexes := by
  induction indexes generalizing catalog with
  | nil => rfl
  | cons index indexes ih =>
    have hrest := ih (catalog.call index).2
    rw [run_cons, List.map_cons, hrest]

/-- The registrations that added nothing may be left out. -/
theorem run_added (catalog : Catalog) (indexes : List Index) :
    (catalog.run (added (catalog.run indexes).1)).2 = (catalog.run indexes).2 := by
  induction indexes generalizing catalog with
  | nil => rfl
  | cons index indexes ih =>
    have hrest := ih (catalog.call index).2
    rw [run_cons, added_cons]
    cases hcollision : catalog.collision? index with
    | none =>
      have hone : added [(index, .ok true)] = [index] := rfl
      rw [call_of_free hcollision] at hrest ⊢
      rw [hone, List.singleton_append, run_cons, call_of_free hcollision]
      exact hrest
    | some kept =>
      -- the catalog is the old one, and the next index meets it whether this one was given or not
      rw [call_of_taken hcollision] at hrest ⊢
      rw [added_refusal, List.nil_append]
      exact hrest

/-- The catalog is consistent, and it lists these indexes and their affected types. -/
structure Records (policy : DuplicatePolicy) (listed : List Index) (catalog : Catalog) : Prop where
  consistent : catalog.Consistent
  policy : catalog.policy = policy
  indexes : catalog.indexes = listed
  affected : ∀ entity, entity ∈ catalog.affected ↔ ∃ index ∈ listed, entity ∈ index.affected

namespace Records

theorem empty (policy : DuplicatePolicy) : (Catalog.empty policy).Records policy [] where
  consistent := .empty policy
  policy := rfl
  indexes := rfl
  affected := by simp [Catalog.empty]

theorem add (h : catalog.Records policy listed) (hfree : catalog.collision? index = none) :
    (catalog.add index).Records policy (listed ++ [index]) where
  consistent := h.consistent.add (h.consistent.collision?_eq_none.mp hfree)
  policy := h.policy
  indexes := congrArg (· ++ [index]) h.indexes
  affected := by
    intro entity
    have hadd : entity ∈ (catalog.add index).affected ↔
        entity ∈ catalog.affected ∨ entity ∈ index.affected := by simp [Catalog.add]
    rw [hadd, h.affected]
    simp only [List.mem_append, List.mem_singleton, or_and_right, exists_or, exists_eq_left]

theorem call (h : catalog.Records policy listed) (index : Index) :
    (catalog.call index).2.Records policy (listed ++ added [(index, (catalog.call index).1)]) := by
  cases hcollision : catalog.collision? index with
  | none =>
    rw [call_of_free hcollision]
    exact h.add hcollision
  | some kept =>
    rw [call_of_taken hcollision, added_refusal, List.append_nil]
    exact h

theorem run (h : catalog.Records policy listed) (indexes : List Index) :
    (catalog.run indexes).2.Records policy (listed ++ added (catalog.run indexes).1) := by
  induction indexes generalizing catalog listed with
  | nil =>
    have hnil : listed ++ added (catalog.run []).1 = listed := List.append_nil listed
    rw [hnil]
    exact h
  | cons index indexes ih =>
    have hrest := ih (h.call index)
    rw [List.append_assoc, ← added_cons] at hrest
    exact hrest

end Records

theorem records_afterAll (policy : DuplicatePolicy) (indexes : List Index) :
    (afterAll policy indexes).Records policy (added (history policy indexes)) :=
  (Records.empty policy).run indexes

/-- After any registrations no two listed indexes share an entity type or a name, and both look-ups
find just these indexes. Listed are those that were answered with `true`, in the order of the calls;
the affected types are theirs. An index is turned away if and only if its entity type or its name is
listed, with the answer of the policy, and the catalog stays as it is; the indexes that were added
alone lead to the same catalog. -/
theorem registrations_consistent (policy : DuplicatePolicy) (indexes : List Index) :
    (((afterAll policy indexes).indexes.map Index.entity).Nodup ∧
      ((afterAll policy indexes).indexes.map Index.name).Nodup) ∧
    (∀ entity index, (afterAll policy indexes).byEntity? entity = some index ↔
      index ∈ (afterAll policy indexes).indexes ∧ index.entity = entity) ∧
    (∀ name index, (afterAll policy indexes).byName? name = some index ↔
      index ∈ (afterAll policy indexes).indexes ∧ index.name = name) ∧
    (∀ entity, (afterAll policy indexes).isDirectlyIndexed entity = true ↔
      ∃ index ∈ (afterAll policy indexes).indexes, index.entity = entity) ∧
    ((history policy indexes).map Prod.fst = indexes ∧
      (afterAll policy indexes).indexes = added (history policy indexes)) ∧
    (∀ entity, (afterAll policy indexes).isAffected entity = true ↔
      ∃ index ∈ (afterAll policy indexes).indexes, entity ∈ index.affected) ∧
    (∀ index, ((afterAll policy indexes).call index).1 = .ok true ↔
      ∀ other ∈ (afterAll policy indexes).indexes,
        other.entity ≠ index.entity ∧ other.name ≠ index.name) ∧
    (∀ index, ((afterAll policy indexes).call index).1 = .ok true ∨
      (afterAll policy indexes).call index = (refusal policy index, afterAll policy indexes)) ∧
    afterAll policy (added (history policy indexes)) = afterAll policy indexes := by
  have hrecords := records_afterAll policy indexes
  have hconsistent := hrecords.consistent
  refine ⟨Index.nodup_map_iff_pairwise.mpr hconsistent.apart, hconsistent.byEntity,
    hconsistent.byName, fun entity => hconsistent.isDirectlyIndexed_iff,
    ⟨map_fst_run _ _, hrecords.indexes⟩, fun entity => ?_, fun index => ?_, fun index => ?_,
    run_added _ _⟩
  · rw [isAffected_iff, hrecords.affected, hrecords.indexes]
  · have hclashes : (∀ other ∈ (afterAll policy indexes).indexes,
        other.entity ≠ index.entity ∧ other.name ≠ index.name) ↔
        (afterAll policy indexes).collision? index = none := by
      simp only [hconsistent.collision?_eq_none, Index.Clashes, not_or, ne_eq]
    rw [hclashes]
    cases hcollision : (afterAll policy indexes).collision? index with
    | none => simp only [call_of_free hcollision]
    | some kept => simp only [call_of_taken hcollision, refusal_ne_ok_true, reduceCtorEq]
  · cases hcollision : (afterAll policy indexes).collision? index with
    | none =>
      rw [call_of_free hcollision]
      exact Or.inl rfl
    | some kept =>
      rw [call_of_taken hcollision, hrecords.policy]
      exact Or.inr rfl

end Reindex.Catalog
