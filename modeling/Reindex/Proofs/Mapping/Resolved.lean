import Reindex.Mapping.Resolution
import Reindex.Proofs.Closed
import Reindex.Proofs.Mapping.Contents

namespace Reindex.Schema

variable {schema : Schema} {config : Config}

theorem mem_of_lookup {owner : EntityName} {segment : String} {hop : Property}
    (h : schema.lookup owner segment = .ok hop) : hop ∈ schema.propertiesOf owner := by
  unfold lookup at h
  cases hentity : schema.entity? owner with
  | none => simp [hentity] at h
  | some entity =>
    cases hproperty : entity.property? segment with
    | none =>
      simp only [hentity, hproperty] at h
      split at h <;> cases h
    | some property =>
      simp only [hentity, hproperty] at h
      split at h
      · cases h
      · cases h
        exact mem_propertiesOf.mpr ⟨entity, hentity, List.mem_of_find?_eq_some hproperty⟩

/-- Walking on from a declared path only leads to declared paths of the same root. -/
theorem declares_of_walk {dotted : String} {path : Path} {owner : EntityName}
    {segments : List String} {paths : List Path} (hpath : schema.Declares path)
    (hreached : path.reached? = some owner)
    (h : schema.walk dotted path owner segments = .ok paths) :
    ∀ result ∈ paths, result.root = path.root ∧ schema.Declares result := by
  induction segments generalizing path owner with
  | nil => cases h
  | cons segment segments ih =>
    cases segments with
    | nil =>
      rw [walk] at h
      split at h
      · cases h
        intro result hresult
        obtain ⟨hop, hhop, rfl⟩ := List.mem_map.mp hresult
        exact ⟨rfl, hpath.child hreached hhop⟩
      · obtain ⟨hop, hlookup, rfl⟩ := Result.map_eq_ok.mp h
        intro result hresult
        rw [List.mem_singleton.mp hresult]
        exact ⟨rfl, hpath.child hreached (mem_of_lookup hlookup)⟩
    | cons second rest =>
      rw [walk] at h
      · obtain ⟨hop, hlookup, h⟩ := Result.bind_eq_ok.mp h
        cases htarget : hop.range.target? with
        | none => simp [htarget] at h
        | some target =>
          simp only [htarget] at h
          have hchild := hpath.child hreached (mem_of_lookup hlookup)
          have hrest := ih hchild (by rw [Path.reached?_child, htarget]) h
          exact hrest
      · simp

theorem declares_of_resolve {root : EntityName} {dotted : String} {paths : List Path}
    (h : schema.resolve root dotted = .ok paths) :
    ∀ path ∈ paths, path.root = root ∧ schema.Declares path := by
  unfold resolve at h
  split at h
  · cases h
  · exact declares_of_walk (declares_ofRoot root) rfl h

theorem declares_of_resolveAll {root : EntityName} {dotted : List String} {paths : List Path}
    (h : schema.resolveAll root dotted = .ok paths) : ∀ path ∈ paths, schema.Declares path := by
  obtain ⟨lists, hlists, rfl⟩ := Result.map_eq_ok.mp h
  intro path hpath
  obtain ⟨list, hlist, hpath⟩ := List.mem_flatten.mp hpath
  obtain ⟨text, _, hresolve⟩ := Result.exists_of_mem_mapM hlists hlist
  exact (declares_of_resolve hresolve path hpath).2

theorem declares_of_standaloneFields {root : EntityName} {declared : List StandaloneField}
    {fields : List Field} (h : schema.standaloneFields root declared = .ok fields) :
    ∀ field ∈ fields, schema.Declares field.path := by
  obtain ⟨lists, hlists, rfl⟩ := Result.map_eq_ok.mp h
  intro field hfield
  obtain ⟨list, hlist, hfield⟩ := List.mem_flatten.mp hfield
  obtain ⟨standalone, _, hmap⟩ := Result.exists_of_mem_mapM hlists hlist
  obtain ⟨paths, hresolve, rfl⟩ := Result.map_eq_ok.mp hmap
  obtain ⟨path, hpath, rfl⟩ := List.mem_map.mp hfield
  exact (declares_of_resolve hresolve path hpath).2

theorem indexOf_eq_ok {definition : Definition} {index : Index} :
    schema.indexOf config definition = .ok index ↔
      (schema.entity? definition.entity).isSome ∧
      ∃ included excluded standalone,
        schema.resolveAll definition.entity definition.included = .ok included ∧
        schema.resolveAll definition.entity definition.excluded = .ok excluded ∧
        schema.standaloneFields definition.entity definition.standalone = .ok standalone ∧
        Index.ofFields definition.entity
          (definition.indexName.getD (config.indexNameOf definition.entity))
          ((included.filter (fun path => !excluded.any path.startsWith)).map Field.ofPath ++
            standalone) = .ok index := by
  unfold indexOf
  cases hentity : schema.entity? definition.entity with
  | none => simp [hentity, bind, Except.bind]
  | some entity => simp [hentity, Result.bind_eq_ok]

theorem declares_of_indexOf {definition : Definition} {index : Index}
    (h : schema.indexOf config definition = .ok index) :
    index.IsBuilt ∧ ∀ field ∈ index.fieldList, schema.Declares field.path := by
  obtain ⟨_, included, excluded, standalone, hincluded, _, hstandalone, hfields⟩ :=
    indexOf_eq_ok.mp h
  have hholds := (Index.ofFields_eq_ok.mp hfields).2
  refine ⟨Index.isBuilt_of_ofFields hfields, fun field hfield => ?_⟩
  rcases List.mem_append.mp (hholds.mem_fieldList.mp hfield) with hmem | hmem
  · obtain ⟨path, hpath, rfl⟩ := List.mem_map.mp hmem
    exact declares_of_resolveAll hincluded path (List.mem_filter.mp hpath).1
  · exact declares_of_standaloneFields hstandalone field hmem

theorem declares_of_mapM_indexOf {definitions : List Definition} {indexes : List Index}
    (h : definitions.mapM (schema.indexOf config) = .ok indexes) :
    ∀ index ∈ indexes, index.IsBuilt ∧ ∀ field ∈ index.fieldList, schema.Declares field.path := by
  intro index hindex
  obtain ⟨_, _, hdefinition⟩ := Result.exists_of_mem_mapM h hindex
  exact declares_of_indexOf hdefinition

end Reindex.Schema
