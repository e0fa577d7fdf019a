import Reindex.Proofs.Dependency.Impact

namespace Reindex

namespace Schema

variable {schema : Schema}

/-- Each property belongs to the identity of the type that those before it reach. -/
def IdentifiesFrom (schema : Schema) (owner : EntityName) : List Property → Prop
  | [] => True
  | hop :: hops =>
    hop ∈ schema.identityOf owner ∧
      match hop.range.target? with
      | some target => IdentifiesFrom schema target hops
      | none => hops = []

theorem IdentifiesFrom.mem_identityOf_last {owner : EntityName} {names : List Property}
    {last : Property} (h : schema.IdentifiesFrom owner (names ++ [last])) {path : Path}
    (howner : path.range?.bind Range.target? = some owner) :
    ∃ target, (path.extend names).range?.bind Range.target? = some target ∧
      last ∈ schema.identityOf target := by
  induction names generalizing owner path with
  | nil =>
    rw [Path.extend_nil]
    exact ⟨owner, howner, h.1⟩
  | cons hop names ih =>
    obtain ⟨_, hrest⟩ := h
    cases htarget : hop.range.target? with
    | none => simp [htarget] at hrest
    | some target =>
      have hrest : schema.IdentifiesFrom target (names ++ [last]) := by
        simpa [htarget] using hrest
      have hchild : (path.child hop).range?.bind Range.target? = some target := by
        rw [Path.range?_bind_target?, Path.reached?_child]
        exact ⟨by simp [Path.child], htarget⟩
      rw [Path.extend_cons]
      exact ih hrest hchild

end Schema

namespace Snapshot

variable {schema : Schema} {config : Config} {snapshot : Snapshot}

/-- A registered index of the root has a field that depends on the data along this very path. -/
def Tracks (snapshot : Snapshot) (root : EntityName) (path : Path) : Prop :=
  ∃ index ∈ snapshot.catalog.indexes, index.entity = root ∧
    ∃ field ∈ index.trackedFields, field.path = path

instance (root : EntityName) (path : Path) : Decidable (snapshot.Tracks root path) :=
  inferInstanceAs (Decidable (∃ index ∈ snapshot.catalog.indexes, index.entity = root ∧
    ∃ field ∈ index.trackedFields, field.path = path))

theorem reads_iff_tracks {root : EntityName} {path : Path} :
    snapshot.Reads schema root path ↔
      ∃ declared, snapshot.Tracks root declared ∧ path ∈ schema.expand declared := by
  constructor
  · rintro ⟨index, hindex, hroot, field, hfield, hstandalone, hexpand⟩
    have htracked : field ∈ index.trackedFields := Index.mem_trackedFields.mpr ⟨hfield, hstandalone⟩
    exact ⟨field.path, ⟨index, hindex, hroot, field, htracked, rfl⟩, hexpand⟩
  · rintro ⟨_, ⟨index, hindex, hroot, field, htracked, rfl⟩, hexpand⟩
    obtain ⟨hfield, hstandalone⟩ := Index.mem_trackedFields.mp htracked
    exact ⟨index, hindex, hroot, field, hfield, hstandalone, hexpand⟩

/-- A change is noticed along each path that leads to the property and is read through it. -/
theorem Reflects.lists_iff_reads_through (hreflects : snapshot.Reflects schema)
    (hindexes : ∀ index ∈ snapshot.catalog.indexes,
      index.IsBuilt ∧ ∀ field ∈ index.fieldList, schema.Declares field.path)
    {property : Property} (hproperty : property ∈ schema.propertiesOf property.owner)
    (root : EntityName) (back : Path) :
    (snapshot.impactOfUpdate property.owner [property.name]).Lists root back ↔
      ∃ rest, snapshot.Reads schema root ((back.child property).extend rest) := by
  rw [hreflects.lists_impactOfUpdate fun index hindex => (hindexes index hindex).1]
  constructor
  · rintro ⟨path, hreads, i, hop, hhop, howner, hname, hback⟩
    have hdeclares : schema.DeclaresFrom path.root path.hops := hreads.declares hindexes
    have hdeclared := hdeclares.mem_propertiesOf_owner (List.mem_of_getElem? hhop)
    rw [howner] at hdeclared
    have hsame : hop = property :=
      schema.eq_of_name_eq hdeclared hproperty (List.mem_singleton.mp hname)
    subst hsame
    obtain ⟨rest, rfl⟩ := Path.hop_iff_extend.mp ⟨i, hhop, hback⟩
    exact ⟨rest, hreads⟩
  · rintro ⟨rest, hreads⟩
    obtain ⟨i, hhop, hback⟩ := Path.hop_iff_extend.mpr ⟨rest, rfl⟩
    exact ⟨_, hreads, i, property, hhop, rfl, List.mem_singleton_self _, hback⟩

/-- A tracked field that ends on a reference shows the identity of its target, and through it
further names. A change of a property of the target's own identity is always noticed. A change
further down is noticed if and only if the same root also has a tracked field that ends on the
reference just above the property, or that is read through the property. -/
theorem nested_names_tracked {definitions : List Definition}
    (hcompiled : (Compilation.compileDefinitions schema config definitions).outcome =
      .ok snapshot)
    {root : EntityName} {path : Path} (htracked : snapshot.Tracks root path) {target : EntityName}
    (htarget : path.range?.bind Range.target? = some target) {names : List Property}
    {last : Property} (hidentity : schema.IdentifiesFrom target (names ++ [last])) :
    ((snapshot.impactOfUpdate last.owner [last.name]).Lists root (path.extend names) ↔
      snapshot.Tracks root (path.extend names) ∨
        ∃ longer, snapshot.Tracks root longer ∧
          longer.startsWith (path.extend (names ++ [last])) = true) ∧
    (names = [] → (snapshot.impactOfUpdate last.owner [last.name]).Lists root path) := by
  have hindexes := declares_of_compileDefinitions hcompiled
  have hreflects := reflects_of_compileDefinitions hcompiled
  obtain ⟨reached, hreached, hlast⟩ := hidentity.mem_identityOf_last htarget
  have hdeclared := Schema.mem_propertiesOf_of_mem_identityOf hlast
  have howner : last.owner = reached := schema.owner_eq hdeclared
  rw [← howner] at hdeclared
  have hlists : (snapshot.impactOfUpdate last.owner [last.name]).Lists root (path.extend names) ↔
      snapshot.Tracks root (path.extend names) ∨
        ∃ longer, snapshot.Tracks root longer ∧
          longer.startsWith (path.extend (names ++ [last])) = true := by
    rw [hreflects.lists_iff_reads_through hindexes hdeclared, Path.extend_concat]
    simp only [reads_iff_tracks]
    constructor
    · rintro ⟨rest, declared, hdeclared, hexpand⟩
      rcases (Schema.exists_extend_child_mem_expand hreached hlast).mp ⟨rest, hexpand⟩ with
        rfl | hstarts
      · exact Or.inl hdeclared
      · exact Or.inr ⟨declared, hdeclared, hstarts⟩
    · rintro (hends | ⟨declared, hdeclared, hstarts⟩)
      · obtain ⟨rest, hexpand⟩ :=
          (Schema.exists_extend_child_mem_expand hreached hlast).mpr (Or.inl rfl)
        exact ⟨rest, _, hends, hexpand⟩
      · obtain ⟨rest, hexpand⟩ :=
          (Schema.exists_extend_child_mem_expand hreached hlast).mpr (Or.inr hstarts)
        exact ⟨rest, declared, hdeclared, hexpand⟩
  refine ⟨hlists, ?_⟩
  rintro rfl
  rw [Path.extend_nil] at hlists
  exact hlists.mpr (Or.inl htracked)

theorem nested_names_tracked_shop :
    Schema.ofEntities Shop.entities = .ok Shop.schema ∧
      (Compilation.compileDefinitions Shop.schema Config.standard Shop.definitions).outcome =
        .ok Shop.snapshot ∧
      Shop.snapshot.Tracks "Order" ⟨"Order", [Shop.orderBuyer]⟩ ∧
      Shop.schema.IdentifiesFrom "Customer" [Shop.customerCompany] ∧
      (Shop.snapshot.impactOfUpdate "Customer" ["company"]).Lists "Order"
        ⟨"Order", [Shop.orderBuyer]⟩ := by
  have htracked : Shop.snapshot.Tracks "Order" ⟨"Order", [Shop.orderBuyer]⟩ := by decide +kernel
  have hcompany : Shop.customerCompany ∈ Shop.schema.identityOf "Customer" := by decide +kernel
  have hidentity : Shop.schema.IdentifiesFrom "Customer" ([] ++ [Shop.customerCompany]) :=
    ⟨hcompany, trivial⟩
  have hlists := nested_names_tracked Shop.outcome_definitions htracked rfl hidentity
  exact ⟨Shop.ofEntities_entities, Shop.outcome_definitions, htracked, hidentity, hlists.2 rfl⟩

/-- The name of that company is part of what the order shows, yet a new name is not noticed. -/
theorem not_lists_company_name_shop :
    Schema.ofEntities Shop.entities = .ok Shop.schema ∧
      (Compilation.compileDefinitions Shop.schema Config.standard Shop.definitions).outcome =
        .ok Shop.snapshot ∧
      Shop.snapshot.Tracks "Order" ⟨"Order", [Shop.orderBuyer]⟩ ∧
      Shop.orderBuyer.range.target? = some "Customer" ∧
      Shop.schema.IdentifiesFrom "Customer" [Shop.customerCompany, Shop.companyName] ∧
      ¬(Shop.snapshot.impactOfUpdate "Company" ["name"]).Lists "Order"
        ⟨"Order", [Shop.orderBuyer, Shop.customerCompany]⟩ := by
  have htracked : Shop.snapshot.Tracks "Order" ⟨"Order", [Shop.orderBuyer]⟩ := by decide +kernel
  have hcompany : Shop.customerCompany ∈ Shop.schema.identityOf "Customer" := by decide +kernel
  have hname : Shop.companyName ∈ Shop.schema.identityOf "Company" := by decide +kernel
  have hlists : ¬(Shop.snapshot.impactOfUpdate "Company" ["name"]).Lists "Order"
      ⟨"Order", [Shop.orderBuyer, Shop.customerCompany]⟩ := by
    rw [Impact.lists_iff]
    decide +kernel
  exact ⟨Shop.ofEntities_entities, Shop.outcome_definitions, htracked, rfl,
    ⟨hcompany, hname, rfl⟩, hlists⟩

end Snapshot

end Reindex
