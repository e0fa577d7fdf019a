import Reindex.Proofs.Dependency.Refusal

namespace Reindex

theorem Property.crossing_notMem_take {hops : List Property} {i : Nat} {hop : Property}
    (hsimple : (hops.map crossing).Nodup) (hhop : hops[i]? = some hop) :
    hop.crossing ∉ (hops.take i).map crossing := by
  obtain ⟨hi, rfl⟩ := List.getElem?_eq_some_iff.mp hhop
  rw [List.map_take]
  intro hmem
  obtain ⟨j, hj, hsame⟩ := List.mem_take_iff_getElem.mp hmem
  have hlength : (hops.map crossing).length = hops.length := List.length_map crossing
  have hdistinct := List.pairwise_iff_getElem.mp hsimple j i (by omega) (by omega) (by omega)
  apply hdistinct
  rw [hsame, List.getElem_map]

namespace Snapshot

variable {schema : Schema} {config : Config} {snapshot : Snapshot}

/-- From the documents of the root, which has an index of its own, the path leads to instances of
the type and crosses no property twice. -/
structure LeadsBack (snapshot : Snapshot) (root entity : EntityName) (back : Path) : Prop where
  root_eq : back.root = root
  indexed : snapshot.catalog.isDirectlyIndexed root = true
  accepted : Path.ofHops? back.root back.hops = some back
  reached : back.reached? = some entity
  simple : (back.hops.map Property.crossing).Nodup

theorem Reads.isDirectlyIndexed {root : EntityName} {path : Path}
    (h : snapshot.Reads schema root path) (hconsistent : snapshot.catalog.Consistent) :
    snapshot.catalog.isDirectlyIndexed root = true := by
  obtain ⟨index, hindex, hentity, _⟩ := h
  exact hconsistent.isDirectlyIndexed_iff.mpr ⟨index, hindex, hentity⟩

theorem Reads.sound {indexes : List Index}
    (hcompiled : (Compilation.compile schema config indexes).outcome = .ok snapshot)
    {root : EntityName} {path : Path} (h : snapshot.Reads schema root path) :
    path.Sound config := by
  obtain ⟨index, hindex, _, field, hfield, htracked, hexpand⟩ := h
  have hagain := congrArg Build.outcome (Compilation.compile_indexes hcompiled)
  have hsound : Compilation.Sound schema config index := by
    by_contra hunsound
    apply Compilation.exists_compile_eq_ok.mp ⟨snapshot, hagain⟩
    apply Compilation.exists_compile_eq_error.mpr
    exact Or.inr (Or.inl ⟨index, hindex, hunsound⟩)
  exact hsound field hfield htracked path hexpand

theorem Reads.isChained
    (hindexes : ∀ index ∈ snapshot.catalog.indexes,
      index.IsBuilt ∧ ∀ field ∈ index.fieldList, schema.Declares field.path)
    {root : EntityName} {path : Path} (h : snapshot.Reads schema root path) : path.IsChained := by
  have hdeclares : schema.DeclaresFrom path.root path.hops := h.declares hindexes
  exact hdeclares.chainedFrom

theorem Reads.leadsBack_take {root entity : EntityName} {path : Path}
    (h : snapshot.Reads schema root path) (hconsistent : snapshot.catalog.Consistent)
    (hroot : path.root = root) (hsound : path.Sound config)
    {i : Nat} (hchained : (path.take i).IsChained)
    (hreached : (path.take i).reached? = some entity) :
    snapshot.LeadsBack root entity (path.take i) where
  root_eq := hroot
  indexed := h.isDirectlyIndexed hconsistent
  accepted := if_pos hchained
  reached := hreached
  simple := by
    have hpart : (path.take i).hops.Sublist path.hops := List.take_sublist i path.hops
    exact hsound.simple.sublist (hpart.map Property.crossing)

/-- Every back path leads from documents of an indexed root to the type that changes, crossing no
property twice. The part of the path that is followed back from a changed property is shorter than
the limit and does not cross the property itself, which the type declares; what is followed back
from a deleted instance takes one hop at least and respects the limit. -/
theorem back_paths_lead_back {definitions : List Definition}
    (hcompiled : (Compilation.compileDefinitions schema config definitions).outcome =
      .ok snapshot) :
    (∀ entity properties root back,
      (snapshot.impactOfUpdate entity properties).Lists root back →
        snapshot.LeadsBack root entity back ∧ back.length < config.pathLimit.toNat ∧
        ∃ property ∈ schema.propertiesOf entity, property.name ∈ properties ∧
          (entity, property.name) ∉ back.hops.map Property.crossing) ∧
    (∀ entity root back, (snapshot.impactOfDelete entity).Lists root back →
        snapshot.LeadsBack root entity back ∧ 1 ≤ back.length ∧
        back.length ≤ config.pathLimit.toNat) := by
  have hindexes := declares_of_compileDefinitions hcompiled
  have hbuilt := fun index hindex => (hindexes index hindex).1
  have hreflects := reflects_of_compileDefinitions hcompiled
  obtain ⟨_, _, hcompiled⟩ := Compilation.compileDefinitions_eq_ok.mp hcompiled
  constructor
  · intro entity properties root back hlists
    obtain ⟨path, hreads, i, hop, hhop, rfl, hname, rfl⟩ :=
      (hreflects.lists_impactOfUpdate hbuilt _ _ _ _).mp hlists
    have hroot : path.root = root := hreads.root_eq hbuilt
    have hsound : path.Sound config := hreads.sound hcompiled
    have hchained : path.IsChained := hreads.isChained hindexes
    have hdeclares : schema.DeclaresFrom path.root path.hops := hreads.declares hindexes
    have hdeclared := hdeclares.mem_propertiesOf_owner (List.mem_of_getElem? hhop)
    have hi : i < path.length := (List.getElem?_eq_some_iff.mp hhop).1
    have hlength : (path.take i).length = i := List.length_take_of_le (Nat.le_of_lt hi)
    have hshort := hsound.short
    refine ⟨?_, by omega, hop, hdeclared, hname, Property.crossing_notMem_take hsound.simple hhop⟩
    exact hreads.leadsBack_take hreflects.catalog hroot hsound (hchained.take hhop)
      (hchained.reached?_take hhop)
  · intro entity root back hlists
    obtain ⟨path, hreads, i, hop, hhop, htarget, rfl⟩ :=
      (hreflects.lists_impactOfDelete hbuilt _ _ _).mp hlists
    have hroot : path.root = root := hreads.root_eq hbuilt
    have hsound : path.Sound config := hreads.sound hcompiled
    have hchained : path.IsChained := hreads.isChained hindexes
    have hi : i < path.length := (List.getElem?_eq_some_iff.mp hhop).1
    have hlength : (path.take (i + 1)).length = i + 1 := List.length_take_of_le hi
    have hshort := hsound.short
    refine ⟨?_, by omega, by omega⟩
    apply hreads.leadsBack_take hreflects.catalog hroot hsound (hchained.take_succ hhop)
    rw [Path.reached?_take_succ hhop, htarget]

theorem back_paths_lead_back_shop :
    Schema.ofEntities Shop.entities = .ok Shop.schema ∧
      (Compilation.compileDefinitions Shop.schema Config.standard Shop.definitions).outcome =
        .ok Shop.snapshot ∧
      (Shop.snapshot.impactOfUpdate "Customer" ["company"]).Lists "Order"
        ⟨"Order", [Shop.orderBuyer]⟩ ∧
      (Shop.snapshot.impactOfDelete "Company").Lists "Order"
        ⟨"Order", [Shop.orderBuyer, Shop.customerCompany]⟩ ∧
      Shop.snapshot.LeadsBack "Order" "Customer" ⟨"Order", [Shop.orderBuyer]⟩ ∧
      Shop.snapshot.LeadsBack "Order" "Company"
        ⟨"Order", [Shop.orderBuyer, Shop.customerCompany]⟩ := by
  have hupdate : (Shop.snapshot.impactOfUpdate "Customer" ["company"]).Lists "Order"
      ⟨"Order", [Shop.orderBuyer]⟩ := by
    apply Impact.lists_iff.mpr
    decide +kernel
  have hdelete : (Shop.snapshot.impactOfDelete "Company").Lists "Order"
      ⟨"Order", [Shop.orderBuyer, Shop.customerCompany]⟩ := by
    apply Impact.lists_iff.mpr
    decide +kernel
  obtain ⟨hupdates, hdeletes⟩ := back_paths_lead_back Shop.outcome_definitions
  exact ⟨Shop.ofEntities_entities, Shop.outcome_definitions, hupdate, hdelete,
    (hupdates _ _ _ _ hupdate).1, (hdeletes _ _ _ hdelete).1⟩

end Snapshot

end Reindex
