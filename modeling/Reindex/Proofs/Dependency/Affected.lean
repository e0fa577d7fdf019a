import Reindex.Proofs.Dependency.Policies

namespace Reindex

namespace Compilation

variable {schema : Schema} {config : Config} {indexes : List Index} {snapshot : Snapshot}

/-- Whatever the policy, the registered indexes are those that are free when their turn comes. -/
theorem indexes_of_compile (h : (compile schema config indexes).outcome = .ok snapshot) :
    snapshot.catalog.indexes = Index.kept indexes := by
  cases hpolicy : config.duplicates with
  | warn =>
    have hconfig : config.withPolicy .warn = config := by rw [Config.withPolicy, ← hpolicy]
    rw [← hconfig] at h
    exact (contents_of_compile_warn h).1
  | reject =>
    have hconfig : config.withPolicy .reject = config := by rw [Config.withPolicy, ← hpolicy]
    rw [← hconfig] at h
    have hlenient := compile_withPolicy (compile_reject_eq h) .warn
    exact (contents_of_compile_warn (congrArg Build.outcome hlenient)).1

end Compilation

namespace Snapshot

variable {schema : Schema} {config : Config} {indexes : List Index} {snapshot : Snapshot}
  {entity : EntityName}

theorem exists_mem_affected (hbuilt : ∀ index ∈ snapshot.catalog.indexes, index.IsBuilt) :
    (∃ index ∈ snapshot.catalog.indexes, entity ∈ index.affected) ↔
      (∃ index ∈ snapshot.catalog.indexes, index.entity = entity) ∨
      ∃ index ∈ snapshot.catalog.indexes, ∃ field ∈ index.fieldList, ∃ hop ∈ field.path.hops,
        hop.range.target? = some entity := by
  constructor
  · rintro ⟨index, hindex, haffected⟩
    rcases ((hbuilt index hindex).consistent.affected entity).mp haffected with
      rfl | ⟨field, hfield, htarget⟩
    · exact Or.inl ⟨index, hindex, rfl⟩
    · exact Or.inr ⟨index, hindex, field, hfield, Path.mem_targets.mp htarget⟩
  · rintro (⟨index, hindex, rfl⟩ | ⟨index, hindex, field, hfield, htarget⟩)
    · exact ⟨index, hindex, ((hbuilt index hindex).consistent.affected _).mpr (Or.inl rfl)⟩
    · exact ⟨index, hindex, ((hbuilt index hindex).consistent.affected entity).mpr
        (Or.inr ⟨field, hfield, Path.mem_targets.mpr htarget⟩)⟩

theorem exists_effectivePath :
    (∃ path ∈ snapshot.effectivePaths schema, entity ∈ path.targets) ↔
      ∃ index ∈ snapshot.catalog.indexes, ∃ field ∈ index.trackedFields,
        ∃ path ∈ schema.expand field.path, ∃ hop ∈ path.hops,
          hop.range.target? = some entity := by
  simp only [effectivePaths, Compilation.effectivePaths, List.mem_flatMap, Path.mem_targets]
  constructor
  · rintro ⟨path, ⟨index, hindex, field, hfield, hpath⟩, htarget⟩
    exact ⟨index, hindex, field, hfield, path, hpath, htarget⟩
  · rintro ⟨index, hindex, field, hfield, path, hpath, htarget⟩
    exact ⟨path, ⟨index, hindex, field, hfield, hpath⟩, htarget⟩

/-- A type is affected if and only if it is the root of a registered index, a reference on the path
of one of its fields leads there, or one on an effective path of a tracked field does. Registered
are the indexes that clash with none before them; the others have no part in this, and neither have
the expansions of standalone fields. -/
theorem affected_exact (hbuilt : ∀ index ∈ indexes, index.IsBuilt)
    (h : (Compilation.compile schema config indexes).outcome = .ok snapshot) :
    snapshot.catalog.indexes = Index.kept indexes ∧
    ∀ entity, snapshot.catalog.isAffected entity = true ↔
      (∃ index ∈ snapshot.catalog.indexes, index.entity = entity) ∨
      (∃ index ∈ snapshot.catalog.indexes, ∃ field ∈ index.fieldList, ∃ hop ∈ field.path.hops,
        hop.range.target? = some entity) ∨
      ∃ index ∈ snapshot.catalog.indexes, ∃ field ∈ index.trackedFields,
        ∃ path ∈ schema.expand field.path, ∃ hop ∈ path.hops,
          hop.range.target? = some entity := by
  have hreflects : snapshot.Reflects schema := Compilation.reflects_of_compile h
  have hregistered := Compilation.isBuilt_of_compile hbuilt h
  refine ⟨Compilation.indexes_of_compile h, fun entity => ?_⟩
  rw [Catalog.isAffected_iff, hreflects.affected, exists_mem_affected hregistered,
    exists_effectivePath, or_assoc]

end Snapshot

namespace Shop

/-- Orders are labelled by code with their buyers; the second index is left out. -/
def labelled : List Definition :=
  [⟨"Order", none, ["number"], [], [⟨"_label", "buyer"⟩]⟩,
    ⟨"Order", some "orders", ["buyer.company"], [], []⟩]

def labelledIndexes : List Index :=
  (labelled.mapM (schema.indexOf Config.standard)).toOption.getD []

def labelledSnapshot : Snapshot :=
  (Compilation.compile schema Config.standard labelledIndexes).outcome.toOption.getD default

theorem mapM_labelled :
    labelled.mapM (schema.indexOf Config.standard) = .ok labelledIndexes := by rfl

theorem outcome_labelled :
    (Compilation.compile schema Config.standard labelledIndexes).outcome =
      .ok labelledSnapshot := by rfl

end Shop

/-- The label leads to customers but depends on nothing, so their companies are not affected. -/
theorem Snapshot.affected_exact_shop : (∀ index ∈ Shop.labelledIndexes, index.IsBuilt) ∧
    (Compilation.compile Shop.schema Config.standard Shop.labelledIndexes).outcome =
      .ok Shop.labelledSnapshot ∧
    Shop.labelledSnapshot.catalog.isAffected "Customer" = true ∧
    ¬Shop.labelledSnapshot.catalog.isAffected "Company" = true := by
  have hbuilt : ∀ index ∈ Shop.labelledIndexes, index.IsBuilt :=
    fun index hindex => (Schema.declares_of_mapM_indexOf Shop.mapM_labelled index hindex).1
  obtain ⟨_, haffected⟩ := Snapshot.affected_exact hbuilt Shop.outcome_labelled
  refine ⟨hbuilt, Shop.outcome_labelled, ?_, ?_⟩
  · rw [haffected]
    decide +kernel
  · rw [haffected]
    decide +kernel

end Reindex
