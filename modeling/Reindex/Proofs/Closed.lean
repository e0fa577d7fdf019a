import Reindex.Proofs.Chains
import Reindex.Proofs.Declared
import Reindex.Proofs.Repetition
import Reindex.Proofs.Result
import Reindex.Proofs.Table

namespace Reindex

namespace Declarations

variable {table : Declarations}

/-- A type whose properties are its own, told apart by their names, and refer to the table. -/
structure Fits (table : Declarations) (entity : Entity) : Prop where
  distinct : entity.propertyNames.Nodup
  owned : ∀ property ∈ entity.properties, property.owner = entity.name
  inside : ∀ property ∈ entity.properties, ∀ target : EntityName,
    property.range.target? = some target → (table.entity? target).isSome
  identified : ∀ name ∈ entity.identity, (entity.property? name).isSome

theorem propertyFault?_cons_eq_none {entity : EntityName} {seen : List String}
    {property : Property} {properties : List Property} :
    table.propertyFault? entity seen (property :: properties) = none ↔
      property.name ∉ seen ∧ property.owner = entity ∧
        (∀ target : EntityName, property.range.target? = some target →
          (table.entity? target).isSome) ∧
        table.propertyFault? entity (property.name :: seen) properties = none := by
  rw [propertyFault?]
  by_cases hname : property.name ∈ seen
  · simp [hname]
  · by_cases howner : property.owner = entity
    · cases htarget : property.range.target? with
      | none => simp [hname, howner]
      | some target => by_cases hinside : (table.entity? target).isSome <;> simp [*]
    · simp [hname, howner]

theorem propertyFault?_eq_none {entity : EntityName} {seen : List String}
    {properties : List Property} :
    table.propertyFault? entity seen properties = none ↔
      (properties.map Property.name).Nodup ∧ (∀ property ∈ properties, property.name ∉ seen) ∧
        (∀ property ∈ properties, property.owner = entity) ∧
        ∀ property ∈ properties, ∀ target : EntityName,
          property.range.target? = some target → (table.entity? target).isSome := by
  induction properties generalizing seen with
  | nil => simp [propertyFault?]
  | cons property properties ih =>
    -- names seen so far grow with the list, so the rest also differs from the head
    have hseen : (∀ later ∈ properties, later.name ∉ property.name :: seen) ↔
        property.name ∉ properties.map Property.name ∧ ∀ later ∈ properties, later.name ∉ seen := by
      simp only [List.mem_cons, not_or, List.mem_map, not_exists, not_and]
      exact forall₂_and
    rw [propertyFault?_cons_eq_none, ih, hseen, List.map_cons, List.nodup_cons]
    simp only [List.forall_mem_cons]
    tauto

theorem entityFault?_eq_none {entity : Entity} :
    table.entityFault? entity = none ↔ table.Fits entity := by
  unfold entityFault?
  cases hfault : table.propertyFault? entity.name [] entity.properties with
  | some fault =>
    simp only [reduceCtorEq, false_iff]
    intro h
    rw [propertyFault?_eq_none.mpr ⟨h.distinct, by simp, h.owned, h.inside⟩] at hfault
    cases hfault
  | none =>
    obtain ⟨hdistinct, _, howned, hinside⟩ := propertyFault?_eq_none.mp hfault
    simp only [Option.map_eq_none_iff, List.find?_eq_none, Option.isNone_iff_eq_none]
    constructor
    · intro h
      exact ⟨hdistinct, howned, hinside,
        fun name hname => Option.isSome_iff_ne_none.mpr (h name hname)⟩
    · intro h name hname
      exact Option.isSome_iff_ne_none.mp (h.identified name hname)

theorem fault?_eq_none :
    table.fault? = none ↔ ∀ (name : EntityName) (entity : Entity),
      table.entity? name = some entity → table.Fits entity := by
  rw [fault?, List.findSome?_eq_none_iff]
  constructor
  · intro h name entity hentity
    exact entityFault?_eq_none.mp (h entity ((Table.mem_values _ _).mpr ⟨name, hentity⟩))
  · intro h entity hentity
    obtain ⟨name, hname⟩ := (Table.mem_values _ _).mp hentity
    exact entityFault?_eq_none.mpr (h name entity hname)

theorem Fits.property?_eq_some {entity : Entity} (h : table.Fits entity) {name : String}
    {property : Property} : entity.property? name = some property ↔
      property ∈ entity.properties ∧ property.name = name :=
  Repetition.find?_key_eq_some h.distinct

theorem Fits.map_name_identityProperties {entity : Entity} (h : table.Fits entity) :
    entity.identityProperties.map Property.name = entity.identity := by
  have hself : ∀ name ∈ entity.identity,
      (entity.property? name).map Property.name = some name := by
    intro name hname
    obtain ⟨property, hproperty⟩ := Option.isSome_iff_exists.mp (h.identified name hname)
    rw [hproperty, Option.map_some, (h.property?_eq_some.mp hproperty).2]
  rw [Entity.identityProperties, List.map_filterMap, List.filterMap_congr hself,
    List.filterMap_some]

end Declarations

namespace Schema

variable {schema : Schema}

theorem fits (schema : Schema) {name : EntityName} {entity : Entity}
    (hentity : schema.entity? name = some entity) : schema.Fits entity :=
  Declarations.fault?_eq_none.mp schema.faultless name entity hentity

theorem ofEntities_eq_ok {entities : List Entity} : ofEntities entities = .ok schema ↔
    Declarations.empty.declare entities = .ok schema.toDeclarations := by
  unfold ofEntities
  cases Declarations.empty.declare entities with
  | error fault => simp
  | ok table =>
    constructor
    · intro h
      dsimp only at h
      split at h
      · cases h
      · cases h
        rfl
    · intro h
      cases h
      dsimp only
      split
      · next fault hfault =>
        rw [schema.faultless] at hfault
        cases hfault
      · rfl

theorem mem_propertiesOf {name : EntityName} {property : Property} :
    property ∈ schema.propertiesOf name ↔
      ∃ entity, schema.entity? name = some entity ∧ property ∈ entity.properties := by
  cases h : schema.entity? name <;> simp [propertiesOf, h]

theorem owner_eq (schema : Schema) {name : EntityName} {property : Property}
    (hproperty : property ∈ schema.propertiesOf name) : property.owner = name := by
  obtain ⟨entity, hentity, hmem⟩ := mem_propertiesOf.mp hproperty
  rw [(schema.fits hentity).owned property hmem, schema.keyed hentity]

theorem isSome_target (schema : Schema) {owner target : EntityName} {hop : Property}
    (hhop : hop ∈ schema.propertiesOf owner) (htarget : hop.range.target? = some target) :
    (schema.entity? target).isSome := by
  obtain ⟨entity, hentity, hmem⟩ := mem_propertiesOf.mp hhop
  exact (schema.fits hentity).inside hop hmem target htarget

theorem eq_of_name_eq (schema : Schema) {name : EntityName} {property other : Property}
    (hproperty : property ∈ schema.propertiesOf name) (hother : other ∈ schema.propertiesOf name)
    (hname : property.name = other.name) : property = other := by
  obtain ⟨entity, hentity, hmem⟩ := mem_propertiesOf.mp hproperty
  obtain ⟨_, hagain, hmem'⟩ := mem_propertiesOf.mp hother
  rw [hentity, Option.some.injEq] at hagain
  subst hagain
  have hfirst := (schema.fits hentity).property?_eq_some.mpr ⟨hmem, hname⟩
  have hsecond := (schema.fits hentity).property?_eq_some.mpr ⟨hmem', rfl⟩
  rw [hfirst, Option.some.injEq] at hsecond
  exact hsecond

theorem identityOf_eq {name : EntityName} {entity : Entity}
    (hentity : schema.entity? name = some entity) :
    schema.identityOf name = entity.identityProperties := by
  simp [identityOf, hentity]

theorem mem_propertiesOf_of_mem_identityOf {name : EntityName} {property : Property}
    (h : property ∈ schema.identityOf name) : property ∈ schema.propertiesOf name := by
  cases hentity : schema.entity? name with
  | none => simp [identityOf, hentity] at h
  | some entity =>
    rw [identityOf_eq hentity, Entity.identityProperties, List.mem_filterMap] at h
    obtain ⟨identity, _, hfound⟩ := h
    exact mem_propertiesOf.mpr ⟨entity, hentity, List.mem_of_find?_eq_some hfound⟩

/-- Each hop is a declared property of the type that the hops before it reach. -/
def DeclaresFrom (schema : Schema) (owner : EntityName) : List Property → Prop
  | [] => True
  | hop :: hops =>
    hop ∈ schema.propertiesOf owner ∧
      match hop.range.target? with
      | some target => DeclaresFrom schema target hops
      | none => hops = []

def Declares (schema : Schema) (path : Path) : Prop := schema.DeclaresFrom path.root path.hops

theorem declares_ofRoot (root : EntityName) : schema.Declares (Path.ofRoot root) := trivial

theorem DeclaresFrom.tail {owner target : EntityName} {hop : Property} {hops : List Property}
    (h : schema.DeclaresFrom owner (hop :: hops)) (htarget : hop.range.target? = some target) :
    schema.DeclaresFrom target hops := by
  simpa [htarget] using h.2

theorem DeclaresFrom.chainedFrom {owner : EntityName} {hops : List Property}
    (h : schema.DeclaresFrom owner hops) : Path.chainedFrom owner hops = true := by
  induction hops generalizing owner with
  | nil => rfl
  | cons hop hops ih =>
    rw [Path.chainedFrom_cons]
    refine ⟨schema.owner_eq h.1, ?_⟩
    cases htarget : hop.range.target? with
    | none => simpa [htarget] using h.2
    | some target => exact ih (h.tail htarget)

theorem Declares.child {path : Path} (h : schema.Declares path) {reached : EntityName}
    {hop : Property} (hreached : path.reached? = some reached)
    (hhop : hop ∈ schema.propertiesOf reached) : schema.Declares (path.child hop) := by
  obtain ⟨owner, hops⟩ := path
  change schema.DeclaresFrom owner (hops ++ [hop])
  change schema.DeclaresFrom owner hops at h
  induction hops generalizing owner with
  | nil =>
    cases hreached
    refine ⟨hhop, ?_⟩
    cases hop.range.target? <;> trivial
  | cons first hops ih =>
    obtain ⟨hfirst, hrest⟩ := h
    refine ⟨hfirst, ?_⟩
    cases htarget : first.range.target? with
    | none =>
      simp only [htarget] at hrest
      simp [hrest, Path.reached?, Path.last?, htarget] at hreached
    | some target =>
      simp only [htarget] at hrest
      rw [Path.reached?_cons htarget] at hreached
      exact ih target hreached hrest

theorem Declares.of_child {path : Path} {hop : Property} (h : schema.Declares (path.child hop)) :
    schema.Declares path ∧
      ∃ reached, path.reached? = some reached ∧ hop ∈ schema.propertiesOf reached := by
  obtain ⟨owner, hops⟩ := path
  change schema.DeclaresFrom owner (hops ++ [hop]) at h
  change schema.DeclaresFrom owner hops ∧ _
  induction hops generalizing owner with
  | nil => exact ⟨trivial, owner, rfl, h.1⟩
  | cons first hops ih =>
    obtain ⟨hfirst, hrest⟩ := h
    cases htarget : first.range.target? with
    | none => simp [htarget] at hrest
    | some target =>
      have hrest : schema.DeclaresFrom target (hops ++ [hop]) := by simpa [htarget] using hrest
      obtain ⟨hdeclares, hreached⟩ := ih target hrest
      rw [Path.reached?_cons htarget]
      refine ⟨⟨hfirst, ?_⟩, hreached⟩
      rw [htarget]
      exact hdeclares

theorem DeclaresFrom.mem_propertiesOf_owner {owner : EntityName} {hops : List Property}
    {hop : Property} (h : schema.DeclaresFrom owner hops) (hhop : hop ∈ hops) :
    hop ∈ schema.propertiesOf hop.owner := by
  induction hops generalizing owner with
  | nil => simp at hhop
  | cons first hops ih =>
    obtain ⟨hfirst, hrest⟩ := h
    rcases List.mem_cons.mp hhop with rfl | hhop
    · rw [schema.owner_eq hfirst]
      exact hfirst
    · cases htarget : first.range.target? with
      | none =>
        simp only [htarget] at hrest
        simp [hrest] at hhop
      | some target =>
        simp only [htarget] at hrest
        exact ih hrest hhop

/-- Chained hops that their owners declare are taken from the types that they reach. -/
theorem declaresFrom_of_chainedFrom {owner : EntityName} {hops : List Property}
    (hchained : Path.chainedFrom owner hops = true)
    (hdeclared : ∀ hop ∈ hops, hop ∈ schema.propertiesOf hop.owner) :
    schema.DeclaresFrom owner hops := by
  induction hops generalizing owner with
  | nil => trivial
  | cons first hops ih =>
    obtain ⟨howner, hrest⟩ := Path.chainedFrom_cons.mp hchained
    obtain ⟨hfirst, hothers⟩ := List.forall_mem_cons.mp hdeclared
    rw [howner] at hfirst
    refine ⟨hfirst, ?_⟩
    cases htarget : first.range.target? with
    | none => simpa [htarget] using hrest
    | some target => exact ih (by simpa [htarget] using hrest) hothers

/-- A chained path of at least one hop that only takes declared properties. -/
structure Admits (schema : Schema) (path : Path) : Prop where
  nonempty : path.hops ≠ []
  chained : path.IsChained
  declared : ∀ hop ∈ path.hops, hop ∈ schema.propertiesOf hop.owner

theorem Admits.declares {path : Path} (h : schema.Admits path) : schema.Declares path :=
  declaresFrom_of_chainedFrom h.chained h.declared

theorem Declares.admits {path : Path} (h : schema.Declares path)
    (hnonempty : path.hops ≠ []) : schema.Admits path where
  nonempty := hnonempty
  chained := DeclaresFrom.chainedFrom h
  declared := fun _ hhop => DeclaresFrom.mem_propertiesOf_owner h hhop

end Schema

end Reindex
