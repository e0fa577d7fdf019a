import Reindex.Proofs.Dependency.Facts
import Reindex.Proofs.Repetition

namespace Reindex.Registry

def ofEntries (entries : List Entry) : Registry := empty.insertAll entries

variable {registry : Registry} {entries : List Entry} {entity : EntityName} {property : String}

theorem filled_ofEntries (entries : List Entry) : (ofEntries entries).Filled :=
  Filled.empty.insertAll entries

theorem mem_updateFacts_ofEntries {fact : UpdateFact} :
    fact ∈ (ofEntries entries).updateFacts ↔ fact ∈ entries.map Entry.update := by
  simp [ofEntries, mem_updateFacts_insertAll, updateFacts_empty]

theorem mem_deletionFacts_ofEntries {fact : DeleteFact} :
    fact ∈ (ofEntries entries).deletionFacts ↔ fact ∈ entries.filterMap Entry.deletion := by
  simp [ofEntries, mem_deletionFacts_insertAll, deletionFacts_empty]

theorem nodup_trackedProperties (registry : Registry) (entity : EntityName) :
    (registry.trackedProperties entity).Nodup :=
  Std.ExtTreeMap.nodup_keys

theorem nodup_trackedEntities (registry : Registry) : registry.trackedEntities.Nodup :=
  Table.nodup_toList _

theorem nodup_updateFacts (registry : Registry) : registry.updateFacts.Nodup := by
  apply Repetition.nodup_flatMap_key UpdateFact.entity Std.ExtTreeMap.nodup_keys
  · intro entity _
    apply Repetition.nodup_flatMap_key UpdateFact.property (registry.nodup_trackedProperties entity)
    · intro property _
      exact (Buckets.nodup_under _ property).map fun path other h => (UpdateFact.mk.inj h).2.2
    · simp
  · intro entity fact hfact
    simp only [List.mem_flatMap, List.mem_map] at hfact
    obtain ⟨_, _, _, _, rfl⟩ := hfact
    rfl

theorem nodup_deletionFacts (registry : Registry) : registry.deletionFacts.Nodup := by
  apply Repetition.nodup_flatMap_key DeleteFact.entity Std.ExtTreeMap.nodup_keys
  · intro entity _
    exact (Buckets.nodup_under _ entity).map fun path other h => (DeleteFact.mk.inj h).2
  · simp

theorem length_updateFacts (registry : Registry) : registry.updateFacts.length =
    (registry.updates.keys.map fun entity =>
      ((registry.trackedProperties entity).map fun property =>
        (registry.backPathsOfUpdate entity property).length).sum).sum := by
  simp only [updateFacts, List.length_flatMap, List.length_map]

theorem length_deletionFacts (registry : Registry) : registry.deletionFacts.length =
    (registry.deletions.keys.map fun entity => (registry.backPathsOfDelete entity).length).sum := by
  simp only [deletionFacts, List.length_flatMap, List.length_map]

theorem size_eq_length (registry : Registry) :
    registry.size = registry.updateFacts.length + registry.deletionFacts.length := by
  rw [size, length_updateFacts, length_deletionFacts, Table.foldr_values registry.updates ∅,
    Buckets.size_eq_sum registry.deletions]
  simp only [Buckets.size_eq_sum]
  rfl

theorem mem_trackedEntities : entity ∈ registry.trackedEntities ↔
    entity ∈ registry.updates ∨ entity ∈ registry.deletions := by
  simp [trackedEntities]

/-- Counted by asking for each type, no fact is left out: a type without facts of one kind adds
nothing to their number. -/
theorem size_eq_sum (registry : Registry) : registry.size =
    (registry.trackedEntities.map fun entity =>
      ((registry.trackedProperties entity).map fun property =>
        (registry.backPathsOfUpdate entity property).length).sum).sum +
    (registry.trackedEntities.map fun entity =>
      (registry.backPathsOfDelete entity).length).sum := by
  rw [size_eq_length, length_updateFacts, length_deletionFacts]
  congr 1
  · apply Repetition.sum_map_of_subset Std.ExtTreeMap.nodup_keys registry.nodup_trackedEntities
    · intro entity hentity
      exact mem_trackedEntities.mpr (Or.inl (Std.ExtTreeMap.mem_keys.mp hentity))
    · intro entity _ hout
      have hnone : registry.trackedProperties entity = [] := List.eq_nil_iff_forall_not_mem.mpr
        fun property hproperty => hout (mem_keys_updates_of_mem hproperty)
      rw [hnone]
      rfl
  · apply Repetition.sum_map_of_subset Std.ExtTreeMap.nodup_keys registry.nodup_trackedEntities
    · intro entity hentity
      exact mem_trackedEntities.mpr (Or.inr (Std.ExtTreeMap.mem_keys.mp hentity))
    · intro entity _ hout
      have hnone : registry.backPathsOfDelete entity = [] := List.eq_nil_iff_forall_not_mem.mpr
        fun path hpath => hout (Buckets.mem_keys_of_mem_under hpath)
      rw [hnone]
      rfl

namespace Filled

variable (h : registry.Filled)
include h

theorem mem_trackedProperties_iff : property ∈ registry.trackedProperties entity ↔
    ∃ fact ∈ registry.updateFacts, fact.entity = entity ∧ fact.property = property := by
  rw [trackedProperties, Std.ExtTreeMap.mem_keys, (h.properties entity).mem_iff]
  constructor
  · rintro ⟨path, hpath⟩
    exact ⟨⟨entity, property, path⟩, mem_updateFacts.mpr hpath, rfl, rfl⟩
  · rintro ⟨fact, hfact, rfl, rfl⟩
    exact ⟨fact.backPath, mem_updateFacts.mp hfact⟩

theorem mem_updates_iff : entity ∈ registry.updates ↔
    ∃ fact ∈ registry.updateFacts, fact.entity = entity := by
  have hproperties : entity ∈ registry.updates ↔
      ∃ property, property ∈ registry.trackedProperties entity := by
    rw [h.types.mem_iff]
    exact Table.ne_empty_iff
  simp only [hproperties, h.mem_trackedProperties_iff]
  constructor
  · rintro ⟨property, fact, hfact, hentity, _⟩
    exact ⟨fact, hfact, hentity⟩
  · rintro ⟨fact, hfact, hentity⟩
    exact ⟨fact.property, fact, hfact, hentity, rfl⟩

theorem mem_deletions_iff : entity ∈ registry.deletions ↔
    ∃ fact ∈ registry.deletionFacts, fact.entity = entity := by
  rw [h.deletions.mem_iff]
  constructor
  · rintro ⟨path, hpath⟩
    exact ⟨⟨entity, path⟩, mem_deletionFacts.mpr hpath, rfl⟩
  · rintro ⟨fact, hfact, rfl⟩
    exact ⟨fact.backPath, mem_deletionFacts.mp hfact⟩

end Filled

theorem ofEntries_eq_iff {others : List Entry} : ofEntries entries = ofEntries others ↔
    (∀ fact, fact ∈ entries.map Entry.update ↔ fact ∈ others.map Entry.update) ∧
      ∀ fact, fact ∈ entries.filterMap Entry.deletion ↔
        fact ∈ others.filterMap Entry.deletion := by
  constructor
  · intro h
    refine ⟨fun fact => ?_, fun fact => ?_⟩
    · rw [← mem_updateFacts_ofEntries, ← mem_updateFacts_ofEntries, h]
    · rw [← mem_deletionFacts_ofEntries, ← mem_deletionFacts_ofEntries, h]
  · rintro ⟨hupdates, hdeletions⟩
    apply (filled_ofEntries entries).ext (filled_ofEntries others)
    · intro fact
      rw [mem_updateFacts_ofEntries, mem_updateFacts_ofEntries, hupdates]
    · intro fact
      rw [mem_deletionFacts_ofEntries, mem_deletionFacts_ofEntries, hdeletions]

/-- A registry holds no empty bucket and answers with the facts that were recorded, each once. Its
types and properties are strictly sorted, and they are those for which there is a fact. Its size is
the number of different facts, which are also counted by asking for each type and property. Two
registries are equal if and only if the same facts were recorded, in whatever order and however
often. -/
theorem ofEntries_exact (entries : List Entry) :
    (ofEntries entries).Filled ∧
    (∀ entity property, ((ofEntries entries).backPathsOfUpdate entity property).Nodup ∧
      ∀ path, path ∈ (ofEntries entries).backPathsOfUpdate entity property ↔
        ⟨entity, property, path⟩ ∈ entries.map Entry.update) ∧
    (∀ entity, ((ofEntries entries).backPathsOfDelete entity).Nodup ∧
      ∀ path, path ∈ (ofEntries entries).backPathsOfDelete entity ↔
        ⟨entity, path⟩ ∈ entries.filterMap Entry.deletion) ∧
    ((ofEntries entries).trackedEntities.Pairwise (· < ·) ∧
      ∀ entity, entity ∈ (ofEntries entries).trackedEntities ↔
        (∃ fact ∈ entries.map Entry.update, fact.entity = entity) ∨
          ∃ fact ∈ entries.filterMap Entry.deletion, fact.entity = entity) ∧
    (∀ entity, ((ofEntries entries).trackedProperties entity).Pairwise (· < ·) ∧
      ∀ property, property ∈ (ofEntries entries).trackedProperties entity ↔
        ∃ fact ∈ entries.map Entry.update, fact.entity = entity ∧ fact.property = property) ∧
    (ofEntries entries).size = (entries.map Entry.update).eraseDups.length +
      (entries.filterMap Entry.deletion).eraseDups.length ∧
    (ofEntries entries).size =
      ((ofEntries entries).trackedEntities.map fun entity =>
        (((ofEntries entries).trackedProperties entity).map fun property =>
          ((ofEntries entries).backPathsOfUpdate entity property).length).sum).sum +
      ((ofEntries entries).trackedEntities.map fun entity =>
        ((ofEntries entries).backPathsOfDelete entity).length).sum ∧
    ∀ others, ofEntries entries = ofEntries others ↔
      (∀ fact, fact ∈ entries.map Entry.update ↔ fact ∈ others.map Entry.update) ∧
      ∀ fact, fact ∈ entries.filterMap Entry.deletion ↔
        fact ∈ others.filterMap Entry.deletion := by
  have hfilled := filled_ofEntries entries
  refine ⟨hfilled, fun entity property => ⟨Buckets.nodup_under _ _, fun path => ?_⟩,
    fun entity => ⟨Buckets.nodup_under _ _, fun path => ?_⟩,
    ⟨Table.pairwise_lt_toList _, fun entity => ?_⟩,
    fun entity => ⟨Table.pairwise_lt_keys _, fun property => ?_⟩, ?_, size_eq_sum _,
    fun others => ofEntries_eq_iff⟩
  · rw [← mem_updateFacts_ofEntries, mem_updateFacts]
  · rw [← mem_deletionFacts_ofEntries, mem_deletionFacts]
  · rw [mem_trackedEntities, hfilled.mem_updates_iff, hfilled.mem_deletions_iff]
    simp only [mem_updateFacts_ofEntries, mem_deletionFacts_ofEntries]
  · simp only [hfilled.mem_trackedProperties_iff, mem_updateFacts_ofEntries]
  · rw [size_eq_length,
      Repetition.length_eq_length_eraseDups (nodup_updateFacts _)
        fun _ => mem_updateFacts_ofEntries,
      Repetition.length_eq_length_eraseDups (nodup_deletionFacts _)
        fun _ => mem_deletionFacts_ofEntries]

end Reindex.Registry
