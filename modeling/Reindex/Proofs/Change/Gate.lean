import Reindex.Proofs.Change.Planned

namespace Reindex.Snapshot

variable {schema : Schema} {config : Config} {snapshot : Snapshot}

/-- A change demands that the own document of the instance follows it, if the type is indexed, and
that the documents are indexed again that it affects along a path of at least one hop. -/
inductive Demands (snapshot : Snapshot) : Change → Request → Prop
  | created {entity : EntityName} {id : String}
      (hindexed : snapshot.catalog.isDirectlyIndexed entity = true) :
      Demands snapshot (.created entity id) (.ofInstance entity id .index)
  | updated {entity : EntityName} {id : String} {properties : List String}
      (hindexed : snapshot.catalog.isDirectlyIndexed entity = true) :
      Demands snapshot (.updated entity id properties) (.ofInstance entity id .index)
  | deleted {entity : EntityName} {id : String}
      (hindexed : snapshot.catalog.isDirectlyIndexed entity = true) :
      Demands snapshot (.deleted entity id) (.ofInstance entity id .delete)
  | updatedBelow {entity root : EntityName} {id : String} {properties : List String} {back : Path}
      (hback : (snapshot.impactOfUpdate entity properties).Lists root back)
      (hne : back.hops ≠ []) :
      Demands snapshot (.updated entity id properties) ⟨root, .dependents back entity id, .index⟩
  | deletedBelow {entity root : EntityName} {id : String} {back : Path}
      (hback : (snapshot.impactOfDelete entity).Lists root back) (hne : back.hops ≠ []) :
      Demands snapshot (.deleted entity id) ⟨root, .dependents back entity id, .index⟩

/-- What a planner asks for that looks up the facts of every change. -/
def ungatedRequestsOf (snapshot : Snapshot) : Change → List Request
  | .created entity id => snapshot.ownRequest entity id .index
  | .updated entity id properties =>
    snapshot.ownRequest entity id .index ++
      dependents (snapshot.impactOfUpdate entity properties) entity id
  | .deleted entity id =>
    snapshot.ownRequest entity id .delete ++ dependents (snapshot.impactOfDelete entity) entity id

def ungatedPlan (snapshot : Snapshot) (changes : List Change) : Except ChangeError (List Request) :=
  match changes.find? (fun change => change.id == "") with
  | some change => .error (.invalidEvent (.missingId change.entity))
  | none => .ok (changes.flatMap snapshot.ungatedRequestsOf).eraseDups

theorem requestsOf_eq_ite (change : Change) :
    snapshot.requestsOf change =
      if snapshot.catalog.isAffected change.entity then snapshot.ungatedRequestsOf change
      else [] := by
  unfold requestsOf
  cases hentity : snapshot.catalog.isAffected change.entity with
  | false => simp
  | true => cases change <;> simp [ungatedRequestsOf]

theorem mem_ungatedRequestsOf {change : Change} {request : Request} :
    request ∈ snapshot.ungatedRequestsOf change ↔ snapshot.Demands change request := by
  cases change with
  | created entity id =>
    rw [ungatedRequestsOf, mem_ownRequest]
    constructor
    · rintro ⟨hindexed, rfl⟩
      exact .created hindexed
    · intro hdemands
      cases hdemands with
      | created hindexed => exact ⟨hindexed, rfl⟩
  | updated entity id properties =>
    rw [ungatedRequestsOf, List.mem_append, mem_ownRequest, mem_dependents]
    constructor
    · rintro (⟨hindexed, rfl⟩ | ⟨root, back, hback, hne, rfl⟩)
      · exact .updated hindexed
      · exact .updatedBelow hback hne
    · intro hdemands
      cases hdemands with
      | updated hindexed => exact Or.inl ⟨hindexed, rfl⟩
      | updatedBelow hback hne => exact Or.inr ⟨_, _, hback, hne, rfl⟩
  | deleted entity id =>
    rw [ungatedRequestsOf, List.mem_append, mem_ownRequest, mem_dependents]
    constructor
    · rintro (⟨hindexed, rfl⟩ | ⟨root, back, hback, hne, rfl⟩)
      · exact .deleted hindexed
      · exact .deletedBelow hback hne
    · intro hdemands
      cases hdemands with
      | deleted hindexed => exact Or.inl ⟨hindexed, rfl⟩
      | deletedBelow hback hne => exact Or.inr ⟨_, _, hback, hne, rfl⟩

namespace Reflects

variable (h : snapshot.Reflects schema)
  (hbuilt : ∀ index ∈ snapshot.catalog.indexes, index.IsBuilt)
  (hchained : ∀ path ∈ snapshot.effectivePaths schema, path.IsChained)
include h

theorem isAffected_of_mem_deletionFacts {fact : DeleteFact}
    (hfact : fact ∈ snapshot.registry.deletionFacts) :
    snapshot.catalog.isAffected fact.entity = true := by
  obtain ⟨path, hpath, i, hop, hhop, htarget, _⟩ := (h.mem_deletionFacts fact).mp hfact
  exact h.isAffected_of_mem_targets hpath
    (List.mem_filterMap.mpr ⟨hop, List.mem_of_getElem? hhop, htarget⟩)

include hbuilt hchained

theorem isAffected_of_mem_updateFacts {fact : UpdateFact}
    (hfact : fact ∈ snapshot.registry.updateFacts) :
    snapshot.catalog.isAffected fact.entity = true := by
  obtain ⟨path, hpath, i, hop, hhop, rfl⟩ := (h.mem_updateFacts fact).mp hfact
  exact h.isAffected_owner hbuilt hpath (hchained path hpath) (List.mem_of_getElem? hhop)

/-- Only changes of affected types demand anything. -/
theorem isAffected_of_demands {change : Change} {request : Request}
    (hdemands : snapshot.Demands change request) :
    snapshot.catalog.isAffected change.entity = true := by
  cases hdemands with
  | created hindexed | updated hindexed | deleted hindexed =>
    exact h.isAffected_of_isDirectlyIndexed hbuilt hindexed
  | updatedBelow hback _ =>
    obtain ⟨⟨property, _, hfact⟩, _⟩ := mem_under_impactOfUpdate.mp (Impact.lists_iff.mp hback)
    exact h.isAffected_of_mem_updateFacts hbuilt hchained hfact
  | deletedBelow hback _ =>
    exact h.isAffected_of_mem_deletionFacts
      (mem_under_impactOfDelete.mp (Impact.lists_iff.mp hback)).1

theorem requestsOf_eq_ungatedRequestsOf (change : Change) :
    snapshot.requestsOf change = snapshot.ungatedRequestsOf change := by
  rw [requestsOf_eq_ite]
  split
  · rfl
  · next hentity =>
    refine (List.eq_nil_iff_forall_not_mem.mpr fun request hrequest => hentity ?_).symm
    exact h.isAffected_of_demands hbuilt hchained (mem_ungatedRequestsOf.mp hrequest)

end Reflects

theorem isChained_of_mem_effectivePaths
    (hindexes : ∀ index ∈ snapshot.catalog.indexes,
      ∀ field ∈ index.fieldList, field.path.IsChained) :
    ∀ path ∈ snapshot.effectivePaths schema, path.IsChained := by
  intro path hpath
  obtain ⟨index, hindex, hpath⟩ := List.mem_flatMap.mp hpath
  obtain ⟨field, hfield, _, hexpand⟩ := Compilation.mem_effectivePaths.mp hpath
  exact Schema.isChained_of_mem_expand (hindexes index hindex field hfield) hexpand

theorem requestsOf_of_compileDefinitions {definitions : List Definition}
    (h : (Compilation.compileDefinitions schema config definitions).outcome = .ok snapshot) :
    snapshot.requestsOf = snapshot.ungatedRequestsOf := by
  have hindexes := declares_of_compileDefinitions h
  have hchained : ∀ path ∈ snapshot.effectivePaths schema, path.IsChained :=
    isChained_of_mem_effectivePaths fun index hindex field hfield =>
      ((hindexes index hindex).2 field hfield).chainedFrom
  funext change
  apply (reflects_of_compileDefinitions h).requestsOf_eq_ungatedRequestsOf _ hchained
  exact fun index hindex => (hindexes index hindex).1

/-- The test loses nothing: in a snapshot compiled from indexes of chained paths, every type with a
fact is affected, and each batch has the plan, or is refused with the error, that the planner
without the test has for it. -/
theorem gate_loses_nothing {indexes : List Index}
    (hindexes : ∀ index ∈ indexes,
      index.IsBuilt ∧ ∀ field ∈ index.fieldList, field.path.IsChained)
    (h : (Compilation.compile schema config indexes).outcome = .ok snapshot) :
    (∀ fact ∈ snapshot.registry.updateFacts, snapshot.catalog.isAffected fact.entity = true) ∧
    (∀ fact ∈ snapshot.registry.deletionFacts, snapshot.catalog.isAffected fact.entity = true) ∧
    ∀ changes, snapshot.plan changes = snapshot.ungatedPlan changes := by
  have hreflects : snapshot.Reflects schema := Compilation.reflects_of_compile h
  have hregistered : ∀ index ∈ snapshot.catalog.indexes, index ∈ indexes :=
    Compilation.mem_of_mem_compiled h
  have hbuilt : ∀ index ∈ snapshot.catalog.indexes, index.IsBuilt :=
    fun index hindex => (hindexes index (hregistered index hindex)).1
  have hchained : ∀ path ∈ snapshot.effectivePaths schema, path.IsChained :=
    isChained_of_mem_effectivePaths fun index hindex =>
      (hindexes index (hregistered index hindex)).2
  refine ⟨fun fact => hreflects.isAffected_of_mem_updateFacts hbuilt hchained,
    fun fact => hreflects.isAffected_of_mem_deletionFacts, fun changes => ?_⟩
  have hrequests : snapshot.requestsOf = snapshot.ungatedRequestsOf :=
    funext (hreflects.requestsOf_eq_ungatedRequestsOf hbuilt hchained)
  rw [plan_eq, ungatedPlan]
  cases changes.find? (fun change => change.id == "") with
  | some change => rfl
  | none => simp only [hrequests]

/-- Companies are affected although no field leads to them: buyers are known by their company. -/
theorem gate_loses_nothing_shop :
    ∃ indexes, (∀ index ∈ indexes,
        index.IsBuilt ∧ ∀ field ∈ index.fieldList, field.path.IsChained) ∧
      (Compilation.compile Shop.schema Config.standard indexes).outcome = .ok Shop.snapshot ∧
      Shop.snapshot.catalog.isAffected "Company" = true ∧
      Shop.snapshot.plan [.deleted "Company" "k1", .created "Visit" "v1"] =
        Shop.snapshot.ungatedPlan [.deleted "Company" "k1", .created "Visit" "v1"] := by
  obtain ⟨indexes, hindexes, hcompile⟩ :=
    Compilation.compileDefinitions_eq_ok.mp Shop.outcome_definitions
  have hbuilt : ∀ index ∈ indexes,
      index.IsBuilt ∧ ∀ field ∈ index.fieldList, field.path.IsChained := by
    intro index hindex
    obtain ⟨definition, _, hdefinition⟩ := Result.exists_of_mem_mapM hindexes hindex
    obtain ⟨hbuilt, hdeclares⟩ := Schema.declares_of_indexOf hdefinition
    exact ⟨hbuilt, fun field hfield => (hdeclares field hfield).chainedFrom⟩
  obtain ⟨_, hdeletions, hplan⟩ := gate_loses_nothing hbuilt hcompile
  have hfact : ⟨"Company", ⟨"Order", [Shop.orderBuyer, Shop.customerCompany]⟩⟩ ∈
      Shop.snapshot.registry.deletionFacts := by decide +kernel
  exact ⟨indexes, hbuilt, hcompile, hdeletions _ hfact, hplan _⟩

end Reindex.Snapshot
