import Reindex.Dependency.Registry
import Reindex.Proofs.Chains
import Reindex.Proofs.Dependency.Buckets

namespace Reindex

namespace Entry

theorem mem_chainFrom (before : Path) (hops : List Property) (entry : Entry) :
    entry ∈ chainFrom before hops ↔ ∃ i hop, hops[i]? = some hop ∧
      entry = ofHop ⟨before.root, before.hops ++ hops.take i⟩ hop := by
  induction hops generalizing before with
  | nil => simp [chainFrom]
  | cons first hops ih =>
    rw [chainFrom, List.mem_append, List.mem_singleton, ih]
    constructor
    · rintro (⟨i, hop, hhop, rfl⟩ | rfl)
      · exact ⟨i + 1, hop, by simpa using hhop, by simp [Path.child]⟩
      · exact ⟨0, first, rfl, by simp⟩
    · rintro ⟨i, hop, hhop, rfl⟩
      cases i with
      | zero =>
        simp only [List.getElem?_cons_zero, Option.some.injEq] at hhop
        subst hhop
        exact Or.inr (by simp)
      | succ i =>
        rw [List.getElem?_cons_succ] at hhop
        exact Or.inl ⟨i, hop, hhop, by simp [Path.child]⟩

/-- Each hop has its entry, whose back path is the part of the path before the hop. -/
theorem mem_chain (path : Path) (entry : Entry) :
    entry ∈ chain path ↔ ∃ i hop, path.hops[i]? = some hop ∧ entry = ofHop (path.take i) hop := by
  simp [chain, mem_chainFrom, Path.ofRoot, Path.take]

theorem exists_update_mem_chain (path : Path) (fact : UpdateFact) :
    (∃ entry ∈ chain path, entry.update = fact) ↔
      ∃ i hop, path.hops[i]? = some hop ∧ fact = ⟨hop.owner, hop.name, path.take i⟩ := by
  simp only [mem_chain]
  constructor
  · rintro ⟨_, ⟨i, hop, hhop, rfl⟩, rfl⟩
    exact ⟨i, hop, hhop, rfl⟩
  · rintro ⟨i, hop, hhop, rfl⟩
    exact ⟨_, ⟨i, hop, hhop, rfl⟩, rfl⟩

theorem exists_deletion_mem_chain (path : Path) (fact : DeleteFact) :
    (∃ entry ∈ chain path, entry.deletion = some fact) ↔
      ∃ i hop, path.hops[i]? = some hop ∧ hop.range.target? = some fact.entity ∧
        fact.backPath = path.take (i + 1) := by
  simp only [mem_chain]
  constructor
  · rintro ⟨_, ⟨i, hop, hhop, rfl⟩, hfact⟩
    obtain ⟨target, htarget, rfl⟩ := Option.map_eq_some_iff.mp hfact
    exact ⟨i, hop, hhop, htarget, Path.child_take hhop⟩
  · rintro ⟨i, hop, hhop, htarget, hback⟩
    refine ⟨_, ⟨i, hop, hhop, rfl⟩, ?_⟩
    rw [ofHop, htarget, Path.child_take hhop, ← hback]
    rfl

end Entry

namespace Registry

variable {registry : Registry} {entity : EntityName} {property : String}

def updateFacts (registry : Registry) : List UpdateFact :=
  registry.updates.keys.flatMap fun entity =>
    (registry.trackedProperties entity).flatMap fun property =>
      (registry.backPathsOfUpdate entity property).map (UpdateFact.mk entity property)

def deletionFacts (registry : Registry) : List DeleteFact :=
  registry.deletions.keys.flatMap fun entity =>
    (registry.backPathsOfDelete entity).map (DeleteFact.mk entity)

theorem mem_trackedProperties_of_mem {path : Path}
    (h : path ∈ registry.backPathsOfUpdate entity property) :
    property ∈ registry.trackedProperties entity :=
  Buckets.mem_keys_of_mem_under h

theorem mem_keys_updates_of_mem (h : property ∈ registry.trackedProperties entity) :
    entity ∈ registry.updates.keys := by
  by_cases hentity : entity ∈ registry.updates
  · exact Std.ExtTreeMap.mem_keys.mpr hentity
  · rw [trackedProperties, Std.ExtTreeMap.getD_eq_fallback hentity] at h
    simp at h

theorem mem_updateFacts {fact : UpdateFact} :
    fact ∈ registry.updateFacts ↔
      fact.backPath ∈ registry.backPathsOfUpdate fact.entity fact.property := by
  simp only [updateFacts, List.mem_flatMap, List.mem_map]
  constructor
  · rintro ⟨entity, _, property, _, path, hpath, rfl⟩
    exact hpath
  · intro h
    have hproperty := mem_trackedProperties_of_mem h
    exact ⟨_, mem_keys_updates_of_mem hproperty, _, hproperty, _, h, rfl⟩

theorem mem_deletionFacts {fact : DeleteFact} :
    fact ∈ registry.deletionFacts ↔ fact.backPath ∈ registry.backPathsOfDelete fact.entity := by
  simp only [deletionFacts, List.mem_flatMap, List.mem_map]
  constructor
  · rintro ⟨entity, _, path, hpath, rfl⟩
    exact hpath
  · intro h
    exact ⟨_, Buckets.mem_keys_of_mem_under h, _, h, rfl⟩

section Insertion

variable (registry : Registry)

theorem updates_insert (entry : Entry) :
    (registry.insert entry).updates = (registry.insertUpdate entry.update).updates := by
  unfold insert
  cases entry.deletion <;> rfl

theorem mem_updateFacts_insert (entry : Entry) (fact : UpdateFact) :
    fact ∈ (registry.insert entry).updateFacts ↔
      entry.update = fact ∨ fact ∈ registry.updateFacts := by
  obtain ⟨⟨changed, name, back⟩, deletion⟩ := entry
  obtain ⟨entity, property, path⟩ := fact
  rw [mem_updateFacts, mem_updateFacts, backPathsOfUpdate, updates_insert, insertUpdate,
    Table.getD_insert]
  split
  · next heq =>
    subst heq
    simp [Buckets.mem_under_add, backPathsOfUpdate]
  · next hne => simp [backPathsOfUpdate, hne]

theorem mem_deletionFacts_insert (entry : Entry) (fact : DeleteFact) :
    fact ∈ (registry.insert entry).deletionFacts ↔
      entry.deletion = some fact ∨ fact ∈ registry.deletionFacts := by
  obtain ⟨update, deletion⟩ := entry
  obtain ⟨entity, path⟩ := fact
  rw [mem_deletionFacts, mem_deletionFacts]
  cases deletion with
  | none => simp [insert, insertUpdate, backPathsOfDelete]
  | some deleted =>
    obtain ⟨deleted, back⟩ := deleted
    simp [insert, insertUpdate, insertDeletion, backPathsOfDelete, Buckets.mem_under_add]

theorem mem_updateFacts_insertAll (entries : List Entry) (fact : UpdateFact) :
    fact ∈ (registry.insertAll entries).updateFacts ↔
      fact ∈ registry.updateFacts ∨ ∃ entry ∈ entries, entry.update = fact := by
  induction entries generalizing registry with
  | nil => simp [insertAll]
  | cons entry entries ih =>
    have h := ih (registry.insert entry)
    rw [mem_updateFacts_insert] at h
    simpa [insertAll, or_assoc, or_left_comm] using h

theorem mem_deletionFacts_insertAll (entries : List Entry) (fact : DeleteFact) :
    fact ∈ (registry.insertAll entries).deletionFacts ↔
      fact ∈ registry.deletionFacts ∨ ∃ entry ∈ entries, entry.deletion = some fact := by
  induction entries generalizing registry with
  | nil => simp [insertAll]
  | cons entry entries ih =>
    have h := ih (registry.insert entry)
    rw [mem_deletionFacts_insert] at h
    simpa [insertAll, or_assoc, or_left_comm] using h

theorem insertAll_append (xs ys : List Entry) :
    registry.insertAll (xs ++ ys) = (registry.insertAll xs).insertAll ys :=
  List.foldl_append

end Insertion

theorem updateFacts_empty : empty.updateFacts = [] := rfl

theorem deletionFacts_empty : empty.deletionFacts = [] := rfl

/-- Neither a type nor a property stands over nothing. -/
structure Filled (registry : Registry) : Prop where
  types : Table.Avoids registry.updates ∅
  properties : ∀ entity : EntityName, Buckets.Filled (registry.updates.getD entity ∅)
  deletions : Buckets.Filled registry.deletions

namespace Filled

theorem empty : Registry.empty.Filled where
  types := Table.Avoids.empty _
  properties := fun _ => Table.Avoids.empty _
  deletions := Table.Avoids.empty _

theorem insertUpdate (h : registry.Filled) (fact : UpdateFact) :
    (registry.insertUpdate fact).Filled where
  types := h.types.insert fact.entity Std.ExtTreeMap.insert_ne_empty
  properties := by
    intro entity
    rw [Registry.insertUpdate, Table.getD_insert]
    split
    · exact (h.properties fact.entity).add fact.property fact.backPath
    · exact h.properties entity
  deletions := h.deletions

theorem insertDeletion (h : registry.Filled) (fact : DeleteFact) :
    (registry.insertDeletion fact).Filled where
  types := h.types
  properties := h.properties
  deletions := h.deletions.add fact.entity fact.backPath

theorem insert (h : registry.Filled) (entry : Entry) : (registry.insert entry).Filled := by
  unfold Registry.insert
  cases entry.deletion with
  | none => exact h.insertUpdate entry.update
  | some fact => exact (h.insertUpdate entry.update).insertDeletion fact

theorem insertAll (h : registry.Filled) (entries : List Entry) :
    (registry.insertAll entries).Filled := by
  induction entries generalizing registry with
  | nil => exact h
  | cons entry entries ih => exact ih (h.insert entry)

theorem ext {other : Registry} (h : registry.Filled) (hother : other.Filled)
    (hupdates : ∀ fact, fact ∈ registry.updateFacts ↔ fact ∈ other.updateFacts)
    (hdeletions : ∀ fact, fact ∈ registry.deletionFacts ↔ fact ∈ other.deletionFacts) :
    registry = other := by
  -- the facts only tell what stands under a key; without empty buckets they also tell the keys
  have htypes : registry.updates = other.updates := by
    refine Table.Avoids.ext h.types hother.types fun entity => ?_
    refine (h.properties entity).ext (hother.properties entity) fun property path => ?_
    have hfact := hupdates ⟨entity, property, path⟩
    rw [mem_updateFacts, mem_updateFacts] at hfact
    exact hfact
  have hbuckets : registry.deletions = other.deletions := by
    refine h.deletions.ext hother.deletions fun entity path => ?_
    have hfact := hdeletions ⟨entity, path⟩
    rw [mem_deletionFacts, mem_deletionFacts] at hfact
    exact hfact
  obtain ⟨updates, deletions⟩ := registry
  obtain rfl : updates = other.updates := htypes
  obtain rfl : deletions = other.deletions := hbuckets
  rfl

end Filled

end Registry

end Reindex
