import Mathlib.Data.List.Pairwise
import Mathlib.Tactic.Push
import Reindex.Dependency.Catalog
import Reindex.Proofs.Table

namespace Reindex

def Index.Clashes (index other : Index) : Prop :=
  index.entity = other.entity ∨ index.name = other.name

instance (index other : Index) : Decidable (index.Clashes other) :=
  inferInstanceAs (Decidable (_ ∨ _))

theorem Index.nodup_map_iff_pairwise {indexes : List Index} :
    (indexes.map Index.entity).Nodup ∧ (indexes.map Index.name).Nodup ↔
      indexes.Pairwise (fun index other => ¬index.Clashes other) := by
  simp only [List.Nodup, List.pairwise_map, ← List.pairwise_and_iff, Index.Clashes, not_or, ne_eq]

namespace Catalog

variable {catalog : Catalog} {index : Index} {entity : EntityName}

theorem isAffected_iff : catalog.isAffected entity = true ↔ entity ∈ catalog.affected :=
  Std.ExtTreeSet.mem_iff_contains.symm

/-- Both look-up tables hold just the listed indexes, no two of which clash. -/
structure Consistent (catalog : Catalog) : Prop where
  apart : catalog.indexes.Pairwise fun index other => ¬index.Clashes other
  byEntity : Table.KeyedBy Index.entity catalog.indexes catalog.byEntity
  byName : Table.KeyedBy Index.name catalog.indexes catalog.byName

namespace Consistent

theorem empty (policy : DuplicatePolicy) : (Catalog.empty policy).Consistent where
  apart := .nil
  byEntity := .empty _
  byName := .empty _

variable (h : catalog.Consistent)
include h

theorem extendAffected (entities : List EntityName) :
    (catalog.extendAffected entities).Consistent :=
  ⟨h.apart, h.byEntity, h.byName⟩

theorem isDirectlyIndexed_iff : catalog.isDirectlyIndexed entity = true ↔
    ∃ index ∈ catalog.indexes, index.entity = entity := by
  rw [← h.byEntity.isSome_iff, isDirectlyIndexed, Std.ExtTreeMap.contains_eq_isSome_getElem?]

theorem collision?_eq_none :
    catalog.collision? index = none ↔ ∀ other ∈ catalog.indexes, ¬other.Clashes index := by
  simp only [collision?, Option.or_eq_none_iff, byEntity?, byName?, h.byEntity.getElem?_eq_none,
    h.byName.getElem?_eq_none, Index.Clashes, not_or]
  exact forall₂_and.symm

theorem collision?_eq_some {kept : Index} (hcollision : catalog.collision? index = some kept) :
    kept ∈ catalog.indexes ∧ kept.Clashes index := by
  rcases Option.or_eq_some_iff.mp hcollision with hentity | ⟨_, hname⟩
  · exact ((h.byEntity _ kept).mp hentity).imp_right Or.inl
  · exact ((h.byName _ kept).mp hname).imp_right Or.inr

theorem add (hfree : ∀ other ∈ catalog.indexes, ¬other.Clashes index) :
    (catalog.add index).Consistent where
  apart := by
    apply List.pairwise_append.mpr
    refine ⟨h.apart, List.pairwise_singleton _ index, fun other hother last hlast => ?_⟩
    rw [List.mem_singleton.mp hlast]
    exact hfree other hother
  byEntity := h.byEntity.insert fun other hother heq => hfree other hother (Or.inl heq)
  byName := h.byName.insert fun other hother heq => hfree other hother (Or.inr heq)

end Consistent

end Catalog

end Reindex
