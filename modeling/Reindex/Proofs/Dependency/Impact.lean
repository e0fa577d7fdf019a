import Reindex.Proofs.Dependency.Compiled
import Reindex.Proofs.Dependency.Expanded
import Reindex.Proofs.Mapping.Resolved

namespace Reindex

namespace Impact

variable {root : EntityName} {path : Path} (impact : Impact)

def Lists (root : EntityName) (path : Path) : Prop :=
  ∃ paths, (root, paths) ∈ impact.groups ∧ path ∈ paths

variable {impact}

theorem lists_iff : impact.Lists root path ↔ path ∈ impact.under root := by
  simp only [Lists, Buckets.mem_groups]
  constructor
  · rintro ⟨_, ⟨_, rfl⟩, hpath⟩
    exact hpath
  · intro hpath
    have hroot := Std.ExtTreeMap.mem_keys.mp (Buckets.mem_keys_of_mem_under hpath)
    exact ⟨_, ⟨hroot, rfl⟩, hpath⟩

theorem mem_under_add (first : Path) : path ∈ (impact.add first).under root ↔
    path = first ∧ path.root = root ∨ path ∈ impact.under root := by
  rw [add, Buckets.mem_under_add]
  apply or_congr_left
  constructor
  · rintro ⟨hroot, rfl⟩
    exact ⟨rfl, hroot⟩
  · rintro ⟨rfl, hroot⟩
    exact ⟨hroot, rfl⟩

theorem mem_under_foldl_add (paths : List Path) : path ∈ (paths.foldl add impact).under root ↔
    path ∈ paths ∧ path.root = root ∨ path ∈ impact.under root := by
  induction paths generalizing impact with
  | nil => simp
  | cons first paths ih =>
    rw [List.foldl_cons, ih, mem_under_add, List.mem_cons]
    tauto

theorem mem_under_ofPaths {paths : List Path} :
    path ∈ (ofPaths paths).under root ↔ path ∈ paths ∧ path.root = root := by
  rw [ofPaths, mem_under_foldl_add]
  exact or_iff_left (Buckets.not_mem_under_empty root path)

theorem filled_ofPaths (paths : List Path) : Buckets.Filled (ofPaths paths) := by
  have hfoldl : ∀ impact : Impact, Buckets.Filled impact →
      Buckets.Filled (paths.foldl add impact) := by
    induction paths with
    | nil => exact fun impact h => h
    | cons path paths ih => exact fun impact h => ih _ (h.add path.root path)
  exact hfoldl ∅ (Table.Avoids.empty _)

theorem mem_roots_ofPaths {paths : List Path} :
    root ∈ (ofPaths paths).roots ↔ ∃ path, path ∈ (ofPaths paths).under root := by
  rw [roots, Std.ExtTreeMap.mem_keys, (filled_ofPaths paths).mem_iff]

end Impact

namespace Snapshot

variable {schema : Schema} {config : Config} {snapshot : Snapshot}

/-- A registered index of the root has a field that is read along the path. -/
def Reads (schema : Schema) (snapshot : Snapshot) (root : EntityName) (path : Path) : Prop :=
  ∃ index ∈ snapshot.catalog.indexes, index.entity = root ∧
    ∃ field ∈ index.fieldList, field.standalone = false ∧ path ∈ schema.expand field.path

instance (root : EntityName) (path : Path) : Decidable (snapshot.Reads schema root path) :=
  inferInstanceAs (Decidable (∃ index ∈ snapshot.catalog.indexes, index.entity = root ∧
    ∃ field ∈ index.fieldList, field.standalone = false ∧ path ∈ schema.expand field.path))

theorem mem_under_impactOfUpdate {entity root : EntityName} {properties : List String}
    {path : Path} : path ∈ (snapshot.impactOfUpdate entity properties).under root ↔
      (∃ property ∈ properties, ⟨entity, property, path⟩ ∈ snapshot.registry.updateFacts) ∧
        path.root = root := by
  simp only [impactOfUpdate, Impact.mem_under_ofPaths, List.mem_flatMap, Registry.mem_updateFacts]

theorem mem_under_impactOfDelete {entity root : EntityName} {path : Path} :
    path ∈ (snapshot.impactOfDelete entity).under root ↔
      ⟨entity, path⟩ ∈ snapshot.registry.deletionFacts ∧ path.root = root := by
  simp only [impactOfDelete, Impact.mem_under_ofPaths, Registry.mem_deletionFacts]

theorem Reads.mem_effectivePaths {root : EntityName} {path : Path}
    (h : snapshot.Reads schema root path) : path ∈ snapshot.effectivePaths schema := by
  obtain ⟨index, hindex, _, hfield⟩ := h
  exact List.mem_flatMap.mpr ⟨index, hindex, Compilation.mem_effectivePaths.mpr hfield⟩

theorem reads_of_mem_effectivePaths
    (hbuilt : ∀ index ∈ snapshot.catalog.indexes, index.IsBuilt) {path : Path}
    (h : path ∈ snapshot.effectivePaths schema) : snapshot.Reads schema path.root path := by
  obtain ⟨index, hindex, hpath⟩ := List.mem_flatMap.mp h
  obtain ⟨field, hfield, hstandalone, hexpand⟩ := Compilation.mem_effectivePaths.mp hpath
  refine ⟨index, hindex, ?_, field, hfield, hstandalone, hexpand⟩
  rw [Schema.root_of_mem_expand hexpand]
  exact ((hbuilt index hindex).consistent.rooted field hfield).symm

theorem Reads.root_eq (hbuilt : ∀ index ∈ snapshot.catalog.indexes, index.IsBuilt)
    {root : EntityName} {path : Path} (h : snapshot.Reads schema root path) : path.root = root := by
  obtain ⟨index, hindex, rfl, field, hfield, _, hexpand⟩ := h
  rw [Schema.root_of_mem_expand hexpand]
  exact (hbuilt index hindex).consistent.rooted field hfield

namespace Reflects

variable (h : snapshot.Reflects schema)
include h

theorem filled : snapshot.registry.Filled := by
  rw [h.registry]
  exact Registry.Filled.empty.insertAll _

theorem mem_updateFacts (fact : UpdateFact) :
    fact ∈ snapshot.registry.updateFacts ↔ ∃ path ∈ snapshot.effectivePaths schema, ∃ i hop,
      path.hops[i]? = some hop ∧ fact = ⟨hop.owner, hop.name, path.take i⟩ := by
  rw [h.registry, Registry.mem_updateFacts_insertAll]
  simp only [List.mem_flatMap, ← Entry.exists_update_mem_chain]
  constructor
  · rintro (hempty | ⟨entry, ⟨path, hpath, hentry⟩, hfact⟩)
    · cases hempty
    · exact ⟨path, hpath, entry, hentry, hfact⟩
  · rintro ⟨path, hpath, entry, hentry, hfact⟩
    exact Or.inr ⟨entry, ⟨path, hpath, hentry⟩, hfact⟩

theorem mem_deletionFacts (fact : DeleteFact) :
    fact ∈ snapshot.registry.deletionFacts ↔ ∃ path ∈ snapshot.effectivePaths schema, ∃ i hop,
      path.hops[i]? = some hop ∧ hop.range.target? = some fact.entity ∧
        fact.backPath = path.take (i + 1) := by
  rw [h.registry, Registry.mem_deletionFacts_insertAll]
  simp only [List.mem_flatMap, ← Entry.exists_deletion_mem_chain]
  constructor
  · rintro (hempty | ⟨entry, ⟨path, hpath, hentry⟩, hfact⟩)
    · cases hempty
    · exact ⟨path, hpath, entry, hentry, hfact⟩
  · rintro ⟨path, hpath, entry, hentry, hfact⟩
    exact Or.inr ⟨entry, ⟨path, hpath, hentry⟩, hfact⟩

variable (hbuilt : ∀ index ∈ snapshot.catalog.indexes, index.IsBuilt)
include hbuilt

theorem lists_impactOfUpdate (entity : EntityName) (properties : List String) (root : EntityName)
    (back : Path) :
    (snapshot.impactOfUpdate entity properties).Lists root back ↔
      ∃ path, snapshot.Reads schema root path ∧ ∃ i hop, path.hops[i]? = some hop ∧
        hop.owner = entity ∧ hop.name ∈ properties ∧ back = path.take i := by
  rw [Impact.lists_iff, mem_under_impactOfUpdate]
  simp only [h.mem_updateFacts, UpdateFact.mk.injEq]
  constructor
  · rintro ⟨⟨_, hproperty, path, hpath, i, hop, hhop, rfl, rfl, rfl⟩, rfl⟩
    exact ⟨path, reads_of_mem_effectivePaths hbuilt hpath, i, hop, hhop, rfl, hproperty, rfl⟩
  · rintro ⟨path, hreads, i, hop, hhop, rfl, hproperty, rfl⟩
    exact ⟨⟨hop.name, hproperty, path, hreads.mem_effectivePaths, i, hop, hhop, rfl, rfl, rfl⟩,
      hreads.root_eq hbuilt⟩

theorem lists_impactOfDelete (entity root : EntityName) (back : Path) :
    (snapshot.impactOfDelete entity).Lists root back ↔
      ∃ path, snapshot.Reads schema root path ∧ ∃ i hop, path.hops[i]? = some hop ∧
        hop.range.target? = some entity ∧ back = path.take (i + 1) := by
  rw [Impact.lists_iff, mem_under_impactOfDelete, h.mem_deletionFacts]
  constructor
  · rintro ⟨⟨path, hpath, i, hop, hhop, htarget, rfl⟩, rfl⟩
    exact ⟨path, reads_of_mem_effectivePaths hbuilt hpath, i, hop, hhop, htarget, rfl⟩
  · rintro ⟨path, hreads, i, hop, hhop, htarget, rfl⟩
    exact ⟨⟨path, hreads.mem_effectivePaths, i, hop, hhop, htarget, rfl⟩, hreads.root_eq hbuilt⟩

end Reflects

theorem reflects_of_compileDefinitions {definitions : List Definition}
    (h : (Compilation.compileDefinitions schema config definitions).outcome = .ok snapshot) :
    snapshot.Reflects schema := by
  obtain ⟨_, _, hcompile⟩ := Compilation.compileDefinitions_eq_ok.mp h
  exact Compilation.reflects_of_compile hcompile

theorem declares_of_compileDefinitions {definitions : List Definition}
    (h : (Compilation.compileDefinitions schema config definitions).outcome = .ok snapshot) :
    ∀ index ∈ snapshot.catalog.indexes,
      index.IsBuilt ∧ ∀ field ∈ index.fieldList, schema.Declares field.path := by
  obtain ⟨indexes, hindexes, hcompile⟩ := Compilation.compileDefinitions_eq_ok.mp h
  intro index hindex
  have hgiven := Compilation.mem_of_mem_compiled hcompile index hindex
  exact Schema.declares_of_mapM_indexOf hindexes index hgiven

theorem Reads.declares
    (hindexes : ∀ index ∈ snapshot.catalog.indexes,
      index.IsBuilt ∧ ∀ field ∈ index.fieldList, schema.Declares field.path)
    {root : EntityName} {path : Path} (h : snapshot.Reads schema root path) :
    schema.Declares path := by
  obtain ⟨index, hindex, _, field, hfield, _, hexpand⟩ := h
  exact ((hindexes index hindex).2 field hfield).of_mem_expand hexpand

theorem Reads.declaresFrom
    (hindexes : ∀ index ∈ snapshot.catalog.indexes,
      index.IsBuilt ∧ ∀ field ∈ index.fieldList, schema.Declares field.path)
    {root : EntityName} {path : Path} (h : snapshot.Reads schema root path) :
    schema.DeclaresFrom root path.hops := by
  have hroot : path.root = root := h.root_eq fun index hindex => (hindexes index hindex).1
  rw [← hroot]
  exact h.declares hindexes

/-- Both questions are answered exactly: a back path is listed if and only if it is the part before
the changed hop, or through the cut reference, of a path that some registered field is read along.
No listed root is without back paths, and indexes that were dropped change nothing. -/
theorem impact_exact {indexes : List Index} (hbuilt : ∀ index ∈ indexes, index.IsBuilt)
    (h : (Compilation.compile schema config indexes).outcome = .ok snapshot) :
    (∀ entity properties root back,
      (snapshot.impactOfUpdate entity properties).Lists root back ↔
        ∃ path, snapshot.Reads schema root path ∧ ∃ i hop, path.hops[i]? = some hop ∧
          hop.owner = entity ∧ hop.name ∈ properties ∧ back = path.take i) ∧
    (∀ entity root back, (snapshot.impactOfDelete entity).Lists root back ↔
        ∃ path, snapshot.Reads schema root path ∧ ∃ i hop, path.hops[i]? = some hop ∧
          hop.range.target? = some entity ∧ back = path.take (i + 1)) ∧
    (∀ entity properties, ∀ group ∈ (snapshot.impactOfUpdate entity properties).groups,
      group.2 ≠ []) ∧
    (∀ entity, ∀ group ∈ (snapshot.impactOfDelete entity).groups, group.2 ≠ []) ∧
    Compilation.compile schema config snapshot.catalog.indexes = ⟨[], .ok snapshot⟩ := by
  have hreflects : snapshot.Reflects schema := Compilation.reflects_of_compile h
  have hregistered : ∀ index ∈ snapshot.catalog.indexes, index.IsBuilt :=
    fun index hindex => hbuilt index (Compilation.mem_of_mem_compiled h index hindex)
  refine ⟨hreflects.lists_impactOfUpdate hregistered, hreflects.lists_impactOfDelete hregistered,
    ?_, ?_, Compilation.compile_indexes h⟩
  · exact fun entity properties => (Impact.filled_ofPaths _).ne_nil_of_mem_groups
  · exact fun entity => (Impact.filled_ofPaths _).ne_nil_of_mem_groups

end Snapshot

namespace Shop

def orderNumber : Property := ⟨"Order", "number", .scalar .string⟩

def orderBuyer : Property := ⟨"Order", "buyer", .reference "Customer" .one⟩

def customerName : Property := ⟨"Customer", "name", .scalar .string⟩

def customerCompany : Property := ⟨"Customer", "company", .reference "Company" .one⟩

def customerReferrers : Property := ⟨"Customer", "referrers", .reference "Customer" .many⟩

def companyName : Property := ⟨"Company", "name", .scalar .string⟩

/-- Orders of customers, who are known by their companies. -/
def entities : List Entity :=
  [⟨"Order", [orderNumber, orderBuyer], ["number"]⟩,
    ⟨"Customer", [customerName, customerCompany, customerReferrers], ["company"]⟩,
    ⟨"Company", [companyName], ["name"]⟩]

/-- The last definition is dropped, as orders have an index already. -/
def definitions : List Definition :=
  [⟨"Order", none, ["number", "buyer"], [], []⟩,
    ⟨"Customer", none, ["name", "referrers.name"], [], []⟩,
    ⟨"Order", some "orders", ["buyer.*"], [], []⟩]

def schema : Schema := (Schema.ofEntities entities).toOption.getD default

def snapshot : Snapshot :=
  (Compilation.compileDefinitions schema Config.standard definitions).outcome.toOption.getD default

theorem ofEntities_entities : Schema.ofEntities entities = .ok schema := by rfl

theorem outcome_definitions :
    (Compilation.compileDefinitions schema Config.standard definitions).outcome =
      .ok snapshot := by rfl

end Shop

theorem Snapshot.impact_exact_shop : ∃ indexes, (∀ index ∈ indexes, index.IsBuilt) ∧
    (Compilation.compile Shop.schema Config.standard indexes).outcome = .ok Shop.snapshot ∧
    (Shop.snapshot.impactOfDelete "Company").Lists "Order"
      ⟨"Order", [Shop.orderBuyer, Shop.customerCompany]⟩ := by
  obtain ⟨indexes, hindexes, hcompile⟩ :=
    Compilation.compileDefinitions_eq_ok.mp Shop.outcome_definitions
  have hbuilt : ∀ index ∈ indexes, index.IsBuilt := by
    intro index hindex
    obtain ⟨definition, _, hdefinition⟩ := Result.exists_of_mem_mapM hindexes hindex
    exact (Schema.declares_of_indexOf hdefinition).1
  have hreads : Shop.snapshot.Reads Shop.schema "Order"
      ⟨"Order", [Shop.orderBuyer, Shop.customerCompany]⟩ := by decide +kernel
  refine ⟨indexes, hbuilt, hcompile, ?_⟩
  exact ((Snapshot.impact_exact hbuilt hcompile).2.1 _ _ _).mpr
    ⟨_, hreads, 1, Shop.customerCompany, rfl, rfl, rfl⟩

end Reindex
