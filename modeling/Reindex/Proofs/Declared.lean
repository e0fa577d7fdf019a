import Mathlib.Data.List.Nodup
import Reindex.Proofs.Table
import Reindex.Schema

namespace Reindex.Declarations

/-- The table holds just the given types. -/
structure Holds (table : Declarations) (entities : List Entity) : Prop where
  distinct : (entities.map Entity.name).Nodup
  keyed : Table.KeyedBy Entity.name entities table.entities

variable {table other start : Declarations} {entities more others : List Entity} {entity : Entity}
  {name : EntityName}

theorem holds_values (table : Declarations) : table.Holds table.entities.values where
  distinct := by
    rw [Table.values_eq_map_toList, List.map_map]
    have hkeys : table.entities.toList.map (Entity.name ∘ Prod.snd) = table.entities.keys := by
      rw [← Std.ExtTreeMap.map_fst_toList_eq_keys]
      refine List.map_congr_left fun entry hentry => ?_
      exact table.keyed (Std.ExtTreeMap.mem_toList_iff_getElem?_eq_some.mp hentry)
    rw [hkeys]
    exact Std.ExtTreeMap.nodup_keys
  keyed := by
    intro name entity
    rw [Table.mem_values]
    constructor
    · exact fun hentity => ⟨⟨name, hentity⟩, table.keyed hentity⟩
    · rintro ⟨⟨key, hentity⟩, rfl⟩
      rwa [table.keyed hentity]

namespace Holds

theorem empty : Declarations.empty.Holds [] := ⟨.nil, .empty _⟩

theorem entity? (h : table.Holds entities) :
    table.entity? name = some entity ↔ entity ∈ entities ∧ entity.name = name :=
  h.keyed name entity

theorem isSome_entity? (h : table.Holds entities) :
    (table.entity? name).isSome ↔ ∃ entity ∈ entities, entity.name = name :=
  h.keyed.isSome_iff

theorem unique (h : table.Holds entities) (hother : other.Holds entities) : table = other :=
  Declarations.ext (h.keyed.ext hother.keyed fun _ => Iff.rfl)

theorem perm (hperm : entities.Perm others) (h : table.Holds entities) : table.Holds others where
  distinct := (hperm.map Entity.name).nodup_iff.mp h.distinct
  keyed := h.keyed.congr fun _ => hperm.mem_iff

theorem insert (h : table.Holds entities) (hnew : ¬(table.entity? entity.name).isSome) :
    (table.insert entity).Holds (entities ++ [entity]) := by
  have hfree : ∀ known ∈ entities, known.name ≠ entity.name := by
    intro known hknown hname
    exact hnew (h.isSome_entity?.mpr ⟨known, hknown, hname⟩)
  refine ⟨?_, h.keyed.insert hfree⟩
  rw [List.map_append, List.map_singleton, ← List.concat_eq_append, List.nodup_concat]
  refine ⟨fun hmem => ?_, h.distinct⟩
  obtain ⟨known, hknown, hname⟩ := List.mem_map.mp hmem
  exact hfree known hknown hname

theorem isNone_of_nodup (h : table.Holds entities)
    (hdistinct : ((entities ++ entity :: more).map Entity.name).Nodup) :
    ¬(table.entity? entity.name).isSome := by
  intro hknown
  obtain ⟨known, hmem, hname⟩ := h.isSome_entity?.mp hknown
  rw [List.map_append, List.nodup_append] at hdistinct
  exact hdistinct.2.2 known.name (List.mem_map_of_mem hmem) entity.name (by simp) hname

theorem declare_eq_ok (h : start.Holds entities) :
    start.declare more = .ok table ↔ table.Holds (entities ++ more) := by
  induction more generalizing start entities with
  | nil =>
    rw [declare, List.append_nil, Except.ok.injEq]
    constructor
    · rintro rfl
      exact h
    · exact h.unique
  | cons entity more ih =>
    rw [declare]
    split
    · next hknown =>
      -- a table that holds the whole list has no two types of one name
      simp only [reduceCtorEq, false_iff]
      exact fun htable => h.isNone_of_nodup htable.distinct hknown
    · next hnew =>
      rw [ih (h.insert hnew), List.append_assoc, List.singleton_append]

theorem exists_declare (h : start.Holds entities)
    (hdistinct : ((entities ++ more).map Entity.name).Nodup) :
    ∃ table, start.declare more = .ok table := by
  induction more generalizing start entities with
  | nil => exact ⟨start, rfl⟩
  | cons entity more ih =>
    have hnew := h.isNone_of_nodup hdistinct
    rw [declare, if_neg hnew]
    apply ih (h.insert hnew)
    rw [List.append_assoc, List.singleton_append]
    exact hdistinct

end Holds

end Reindex.Declarations
