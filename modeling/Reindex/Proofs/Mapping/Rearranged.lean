import Reindex.Proofs.Mapping.Resolved

namespace Reindex

namespace Definition

def nameUnder (config : Config) (definition : Definition) : String :=
  definition.indexName.getD (config.indexNameOf definition.entity)

/-- The definitions list the same, perhaps in another order or repeatedly. -/
structure Rearranges (definition other : Definition) : Prop where
  entity : definition.entity = other.entity
  indexName : definition.indexName = other.indexName
  included : ∀ dotted, dotted ∈ definition.included ↔ dotted ∈ other.included
  excluded : ∀ dotted, dotted ∈ definition.excluded ↔ dotted ∈ other.excluded
  standalone : ∀ field, field ∈ definition.standalone ↔ field ∈ other.standalone

theorem Rearranges.symm {definition other : Definition} (h : definition.Rearranges other) :
    other.Rearranges definition where
  entity := h.entity.symm
  indexName := h.indexName.symm
  included := fun dotted => (h.included dotted).symm
  excluded := fun dotted => (h.excluded dotted).symm
  standalone := fun field => (h.standalone field).symm

theorem Rearranges.nameUnder_eq {definition other : Definition} (h : definition.Rearranges other)
    (config : Config) : definition.nameUnder config = other.nameUnder config := by
  rw [nameUnder, nameUnder, h.indexName, h.entity]

/-- The definitions stand in another order, and each of them may be rearranged itself. -/
def Rearranged (definitions others : List Definition) : Prop :=
  ∃ middle, definitions.Perm middle ∧ List.Forall₂ Rearranges middle others

theorem Rearranged.symm {definitions others : List Definition} (h : Rearranged definitions others) :
    Rearranged others definitions := by
  obtain ⟨middle, hperm, hothers⟩ := h
  obtain ⟨reordered, hreordered, hback⟩ := List.perm_comp_forall₂ hperm hothers
  refine ⟨reordered, hback.symm, List.Forall₂.flip ?_⟩
  apply hreordered.imp
  exact fun definition other hsame => hsame.symm

theorem Rearranged.map_perm {κ : Type} {key : Definition → κ}
    (hkey : ∀ {definition other}, Rearranges definition other → key definition = key other)
    {definitions others : List Definition} (h : Rearranged definitions others) :
    (definitions.map key).Perm (others.map key) := by
  obtain ⟨middle, hperm, hothers⟩ := h
  have hmap : middle.map key = others.map key := by
    rw [← List.forall₂_eq_eq_eq, List.forall₂_map_left_iff, List.forall₂_map_right_iff]
    exact hothers.imp fun _ _ hsame => hkey hsame
  rw [← hmap]
  exact hperm.map key

end Definition

namespace Schema

variable {schema : Schema} {config : Config} {definition other : Definition} {index : Index}

theorem keys_of_indexOf (h : schema.indexOf config definition = .ok index) :
    index.entity = definition.entity ∧ index.name = definition.nameUnder config := by
  obtain ⟨_, _, _, _, _, _, _, hfields⟩ := indexOf_eq_ok.mp h
  have hholds := (Index.ofFields_eq_ok.mp hfields).2
  exact ⟨hholds.entity_eq, hholds.name_eq⟩

theorem entities_of_mapM_indexOf {definitions : List Definition} {indexes : List Index}
    (h : definitions.mapM (schema.indexOf config) = .ok indexes) :
    indexes.map Index.entity = definitions.map Definition.entity :=
  Result.map_of_mapM (fun hindex => (keys_of_indexOf hindex).1) h

theorem names_of_mapM_indexOf {definitions : List Definition} {indexes : List Index}
    (h : definitions.mapM (schema.indexOf config) = .ok indexes) :
    indexes.map Index.name = definitions.map (Definition.nameUnder config) :=
  Result.map_of_mapM (fun hindex => (keys_of_indexOf hindex).2) h

theorem indexOf_of_rearranges (hother : definition.Rearranges other)
    (h : schema.indexOf config definition = .ok index) :
    schema.indexOf config other = .ok index := by
  obtain ⟨hknown, included, excluded, standalone, hincluded, hexcluded, hstandalone, hfields⟩ :=
    indexOf_eq_ok.mp h
  obtain ⟨included', hincluded', hsame⟩ := Result.flatten_mapM_congr hother.included hincluded
  obtain ⟨excluded', hexcluded', hless⟩ := Result.flatten_mapM_congr hother.excluded hexcluded
  obtain ⟨standalone', hstandalone', hmore⟩ :=
    Result.flatten_mapM_congr hother.standalone hstandalone
  have hany : ∀ path : Path, excluded.any path.startsWith = excluded'.any path.startsWith := by
    intro path
    rw [Bool.eq_iff_iff]
    simp only [List.any_eq_true, hless]
  refine indexOf_eq_ok.mpr ?_
  rw [← hother.entity, ← hother.indexName]
  refine ⟨hknown, included', excluded', standalone', hincluded', hexcluded', hstandalone', ?_⟩
  refine Index.ofFields_congr (fun field => ?_) hfields
  simp only [List.mem_append, List.mem_map, List.mem_filter, hany, hsame, hmore]

theorem mapM_indexOf_of_rearranged {definitions others : List Definition}
    (hothers : Definition.Rearranged definitions others) {indexes : List Index}
    (h : definitions.mapM (schema.indexOf config) = .ok indexes) :
    ∃ reordered, others.mapM (schema.indexOf config) = .ok reordered ∧
      indexes.Perm reordered := by
  obtain ⟨middle, hperm, hothers⟩ := hothers
  obtain ⟨reordered, hmiddle, hreordered⟩ := Result.mapM_perm hperm h
  exact ⟨reordered, Result.mapM_of_forall₂ indexOf_of_rearranges hothers hmiddle, hreordered⟩

end Schema

end Reindex
