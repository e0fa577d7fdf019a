import Reindex.Mapping.Index
import Reindex.Proofs.Table

namespace Reindex.Index

def IsBuilt (index : Index) : Prop :=
  ∃ fields, ofFields index.entity index.name fields = .ok index

/-- What the fields of a built index have in common. -/
structure Consistent (index : Index) : Prop where
  named : ∀ {name : String} {field : Field}, index.field? name = some field → field.name = name
  rooted : ∀ field ∈ index.fieldList, field.path.root = index.entity
  nonempty : ∀ field ∈ index.fieldList, field.path.hops ≠ []
  affected : ∀ entity : EntityName, entity ∈ index.affected ↔
    entity = index.entity ∨ ∃ field ∈ index.fieldList, entity ∈ field.path.targets

variable {index : Index} {field : Field}

theorem mem_fieldList : field ∈ index.fieldList ↔ ∃ name, index.field? name = some field :=
  Table.mem_values index.fields field

theorem mem_trackedFields :
    field ∈ index.trackedFields ↔ field ∈ index.fieldList ∧ field.standalone = false := by
  simp [trackedFields]

@[simp]
theorem field?_affect (entities : List EntityName) (name : String) :
    (index.affect entities).field? name = index.field? name := rfl

theorem mem_affected_affect {entities : List EntityName} {entity : EntityName} :
    entity ∈ (index.affect entities).affected ↔ entity ∈ index.affected ∨ entity ∈ entities := by
  simp [affect]

/-- A field is accepted if it fits the root and its name is free or stands for the same field. -/
theorem addField_eq_ok {result : Index} :
    index.addField field = .ok result ↔
      field.path.hops ≠ [] ∧ field.path.root = index.entity ∧
        (index.field? field.name = none ∧
            result = (index.affect field.path.targets).insertField field ∨
          index.field? field.name = some field ∧ result = index.affect field.path.targets) := by
  unfold addField
  by_cases hempty : field.path.isEmpty
  · simp_all [Path.isEmpty]
  · by_cases hroot : field.path.root = index.entity
    · have hne : field.path.hops ≠ [] := by simpa [Path.isEmpty] using hempty
      cases hfield : index.field? field.name with
      | none => simp [hempty, hroot, hne, hfield, eq_comm]
      | some other =>
        by_cases hsame : other = field
        · simp [hempty, hroot, hne, hfield, hsame, eq_comm]
        · simp [hempty, hroot, hfield, hsame]
    · simp [hempty, hroot]

theorem Consistent.pairwise_fieldList (h : index.Consistent) :
    index.fieldList.Pairwise (fun field other => compare field.name other.name = .lt) := by
  rw [fieldList, Table.values_eq_map_toList, List.pairwise_map]
  refine Std.ExtTreeMap.ordered_keys_toList.imp_of_mem fun {entry other} hentry hother hlt => ?_
  rwa [h.named (Std.ExtTreeMap.mem_toList_iff_getElem?_eq_some.mp hentry),
    h.named (Std.ExtTreeMap.mem_toList_iff_getElem?_eq_some.mp hother)]

theorem Consistent.nodup_fieldList (h : index.Consistent) : index.fieldList.Nodup := by
  refine h.pairwise_fieldList.imp fun hlt heq => ?_
  simp [heq] at hlt

end Reindex.Index
