import Reindex.Proofs.Dependency.NestedNames

namespace Reindex

namespace Schema

variable {schema : Schema} {path result : Path} {entity : Entity}

/-- The value at the end of the path is shown by the identity of the type. -/
structure Shows (schema : Schema) (path : Path) (entity : Entity) : Prop where
  target : path.range?.bind Range.target? = some entity.name
  declared : schema.entity? entity.name = some entity
  identified : entity.identity ≠ []

theorem Shows.expand_eq (h : schema.Shows path entity) :
    ∃ hops, hops ≠ [] ∧ hops.map Property.name = entity.identity ∧
      (∀ hop ∈ hops, hop ∈ entity.properties) ∧ schema.expand path = hops.map path.child := by
  have hnames := (schema.fits h.declared).map_name_identityProperties
  have hnonempty : entity.identityProperties ≠ [] := by
    intro hnil
    rw [hnil] at hnames
    exact h.identified hnames.symm
  have hidentity := identityOf_eq h.declared
  refine ⟨entity.identityProperties, hnonempty, hnames, fun hop hhop => ?_, ?_⟩
  · obtain ⟨name, _, hfound⟩ := List.mem_filterMap.mp hhop
    exact List.mem_of_find?_eq_some hfound
  · rw [expand_eq_map h.target (by rwa [hidentity]), hidentity]

theorem expand_eq_self (h : ∀ entity, ¬schema.Shows path entity) :
    schema.expand path = [path] := by
  apply expand_eq_singleton
  intro target htarget
  cases hentity : schema.entity? target with
  | none => simp [identityOf, hentity]
  | some entity =>
    obtain rfl : entity.name = target := schema.keyed hentity
    have hidentity : entity.identity = [] := by
      by_contra hne
      exact h entity ⟨htarget, hentity, hne⟩
    rw [identityOf_eq hentity, Entity.identityProperties, hidentity, List.filterMap_nil]

/-- A path stays as it is, or it is replaced by its steps into the identity that it is shown by. -/
theorem expand_cases (schema : Schema) (path : Path) :
    (∀ entity, ¬schema.Shows path entity) ∧ schema.expand path = [path] ∨
      (∃ entity, schema.Shows path entity) ∧
        ∃ hops, hops ≠ [] ∧ schema.expand path = hops.map path.child := by
  by_cases hshows : ∃ entity, schema.Shows path entity
  · obtain ⟨entity, hentity⟩ := hshows
    obtain ⟨hops, hnonempty, _, _, hexpand⟩ := hentity.expand_eq
    exact Or.inr ⟨⟨entity, hentity⟩, hops, hnonempty, hexpand⟩
  · rw [not_exists] at hshows
    exact Or.inl ⟨hshows, expand_eq_self hshows⟩

theorem expand_ne_nil (schema : Schema) (path : Path) : schema.expand path ≠ [] := by
  rcases schema.expand_cases path with ⟨_, hself⟩ | ⟨_, hops, hnonempty, hexpand⟩
  · simp [hself]
  · rw [hexpand]
    simpa using hnonempty

theorem startsWith_of_mem_expand (h : result ∈ schema.expand path) :
    result.startsWith path = true ∧ result.length ≤ path.length + 1 ∧
      (path.length < result.length ↔ ∃ entity, schema.Shows path entity) := by
  rcases schema.expand_cases path with ⟨hshows, hself⟩ | ⟨hshows, hops, _, hexpand⟩
  · rw [hself, List.mem_singleton] at h
    subst h
    refine ⟨Path.startsWith_iff.mpr ⟨[], (result.extend_nil).symm⟩, by omega, ?_⟩
    simpa using hshows
  · rw [hexpand] at h
    obtain ⟨hop, _, rfl⟩ := List.mem_map.mp h
    have hlength : (path.child hop).length = path.length + 1 := by simp [Path.length, Path.child]
    refine ⟨Path.startsWith_iff.mpr ⟨[hop], rfl⟩, by omega, ?_⟩
    exact ⟨fun _ => hshows, fun _ => by omega⟩

end Schema

namespace Snapshot

variable {schema : Schema} {config : Config} {snapshot : Snapshot} {root : EntityName}
  {path : Path}

theorem Tracks.exists_reads (schema : Schema) (h : snapshot.Tracks root path) :
    ∃ rest, snapshot.Reads schema root (path.extend rest) := by
  obtain ⟨rest, hexpand⟩ := schema.exists_extend_mem_expand path
  exact ⟨rest, reads_iff_tracks.mpr ⟨path, h, hexpand⟩⟩

theorem Reflects.lists_of_tracks (hreflects : snapshot.Reflects schema)
    (hbuilt : ∀ index ∈ snapshot.catalog.indexes, index.IsBuilt)
    (htracked : snapshot.Tracks root path) {i : Nat} {hop : Property}
    (hhop : path.hops[i]? = some hop) :
    (∀ properties, hop.name ∈ properties →
      (snapshot.impactOfUpdate hop.owner properties).Lists root (path.take i)) ∧
    ∀ target, hop.range.target? = some target →
      (snapshot.impactOfDelete target).Lists root (path.take (i + 1)) := by
  obtain ⟨rest, hreads⟩ := htracked.exists_reads schema
  obtain ⟨hsame, hbefore, hthrough⟩ := Path.hop_extend hhop rest
  constructor
  · intro properties hproperty
    rw [hreflects.lists_impactOfUpdate hbuilt]
    exact ⟨_, hreads, i, hop, hsame, rfl, hproperty, hbefore.symm⟩
  · intro target htarget
    rw [hreflects.lists_impactOfDelete hbuilt]
    exact ⟨_, hreads, i, hop, hsame, htarget, hthrough.symm⟩

/-- Expansion gives at least one path, and each of them takes all hops of the declared one. One more
hop is taken exactly where the declared path ends on a type with identity, and then the identity is
gone through in its order. So every hop of a tracked path is answered for: a change of the property
with the hops before it, and a deletion of what it refers to with the hops up to it. -/
theorem expansion_keeps_declared (schema : Schema) :
    (∀ path, schema.Admits path →
      schema.expand path ≠ [] ∧
      (∀ result ∈ schema.expand path, result.IsChained ∧ result.startsWith path = true ∧
        result.length ≤ path.length + 1 ∧
        (path.length < result.length ↔ ∃ entity, schema.Shows path entity)) ∧
      ∀ entity, schema.Shows path entity → ∃ hops : List Property,
        schema.expand path = hops.map path.child ∧ hops.map Property.name = entity.identity ∧
          ∀ hop ∈ hops, hop ∈ entity.properties) ∧
    ∀ (config : Config) (indexes : List Index) (snapshot : Snapshot),
      (∀ index ∈ indexes, index.IsBuilt) →
      (Compilation.compile schema config indexes).outcome = .ok snapshot →
      ∀ root path, snapshot.Tracks root path → ∀ i hop, path.hops[i]? = some hop →
        (∀ properties, hop.name ∈ properties →
          (snapshot.impactOfUpdate hop.owner properties).Lists root (path.take i)) ∧
        ∀ target, hop.range.target? = some target →
          (snapshot.impactOfDelete target).Lists root (path.take (i + 1)) := by
  constructor
  · intro path hpath
    refine ⟨schema.expand_ne_nil path, fun result hresult => ?_, fun entity hentity => ?_⟩
    · have hchained : result.IsChained :=
        Schema.isChained_of_mem_expand hpath.chained hresult
      exact ⟨hchained, Schema.startsWith_of_mem_expand hresult⟩
    · obtain ⟨hops, _, hnames, hdeclared, hexpand⟩ := hentity.expand_eq
      exact ⟨hops, hexpand, hnames, hdeclared⟩
  · intro config indexes snapshot hbuilt hcompile root path htracked i hop hhop
    have hreflects : snapshot.Reflects schema := Compilation.reflects_of_compile hcompile
    have hregistered := Compilation.isBuilt_of_compile hbuilt hcompile
    exact hreflects.lists_of_tracks hregistered htracked hhop

/-- The buyer of an order is shown by the company of the customer, which replaces it; who the buyer
is and whether that customer is still there are answered for all the same. -/
theorem expansion_keeps_declared_shop : ∃ indexes, (∀ index ∈ indexes, index.IsBuilt) ∧
    (Compilation.compile Shop.schema Config.standard indexes).outcome = .ok Shop.snapshot ∧
    Shop.schema.Admits ⟨"Order", [Shop.orderBuyer]⟩ ∧
    (∀ result ∈ Shop.schema.expand ⟨"Order", [Shop.orderBuyer]⟩, 1 < result.length) ∧
    Shop.snapshot.Tracks "Order" ⟨"Order", [Shop.orderBuyer]⟩ ∧
    (Shop.snapshot.impactOfUpdate "Order" ["buyer"]).Lists "Order" ⟨"Order", []⟩ ∧
    (Shop.snapshot.impactOfDelete "Customer").Lists "Order" ⟨"Order", [Shop.orderBuyer]⟩ := by
  obtain ⟨indexes, hindexes, hcompile⟩ :=
    Compilation.compileDefinitions_eq_ok.mp Shop.outcome_definitions
  have hbuilt : ∀ index ∈ indexes, index.IsBuilt :=
    fun index hindex => (Schema.declares_of_mapM_indexOf hindexes index hindex).1
  have hadmits : Shop.schema.Admits ⟨"Order", [Shop.orderBuyer]⟩ :=
    ⟨by decide, by decide, by decide +kernel⟩
  have hshows : Shop.schema.Shows ⟨"Order", [Shop.orderBuyer]⟩ ⟨"Customer",
      [Shop.customerName, Shop.customerCompany, Shop.customerReferrers], ["company"]⟩ :=
    ⟨rfl, by decide +kernel, by decide⟩
  have htracked : Shop.snapshot.Tracks "Order" ⟨"Order", [Shop.orderBuyer]⟩ := by decide +kernel
  obtain ⟨hexpand, hanswers⟩ := expansion_keeps_declared Shop.schema
  obtain ⟨_, hresults, _⟩ := hexpand _ hadmits
  obtain ⟨hupdate, hdelete⟩ :=
    hanswers _ _ _ hbuilt hcompile _ _ htracked 0 Shop.orderBuyer rfl
  refine ⟨indexes, hbuilt, hcompile, hadmits, fun result hresult => ?_, htracked,
    hupdate ["buyer"] (List.mem_singleton_self _), hdelete "Customer" rfl⟩
  exact (hresults result hresult).2.2.2.mpr ⟨_, hshows⟩

end Snapshot

end Reindex
