import Reindex.Proofs.Dependency.Impact
import Reindex.Schema.File

namespace Reindex

namespace Schema

/-- The type owns its properties, which are told apart by their names, it refers to the given types
alone, and its identity is made of its properties. -/
structure FitsAmong (entities : List Entity) (entity : Entity) : Prop where
  distinct : entity.propertyNames.Nodup
  owned : ∀ property ∈ entity.properties, property.owner = entity.name
  inside : ∀ property ∈ entity.properties, ∀ target : EntityName,
    property.range.target? = some target → ∃ other ∈ entities, other.name = target
  identified : ∀ name ∈ entity.identity, ∃ property ∈ entity.properties, property.name = name

structure WellFormed (entities : List Entity) : Prop where
  distinct : (entities.map Entity.name).Nodup
  fits : ∀ entity ∈ entities, FitsAmong entities entity

variable {schema : Schema} {entities others : List Entity} {entity : Entity}

theorem fits_iff_of_holds {table : Declarations} (h : table.Holds entities) :
    table.Fits entity ↔ FitsAmong entities entity := by
  have hproperty : ∀ name, (entity.property? name).isSome ↔
      ∃ property ∈ entity.properties, property.name = name := by
    simp [Entity.property?, List.find?_isSome]
  constructor
  · intro hfits
    refine ⟨hfits.distinct, hfits.owned, fun property hmem target htarget => ?_,
      fun name hname => (hproperty name).mp (hfits.identified name hname)⟩
    exact h.isSome_entity?.mp (hfits.inside property hmem target htarget)
  · intro hfits
    refine ⟨hfits.distinct, hfits.owned, fun property hmem target htarget => ?_,
      fun name hname => (hproperty name).mpr (hfits.identified name hname)⟩
    exact h.isSome_entity?.mpr (hfits.inside property hmem target htarget)

theorem ofEntities_eq_ok_iff_holds :
    ofEntities entities = .ok schema ↔ schema.Holds entities := by
  rw [ofEntities_eq_ok, Declarations.Holds.empty.declare_eq_ok, List.nil_append]

/-- Every schema is that of its types. -/
theorem ofEntities_values (schema : Schema) : ofEntities schema.entities.values = .ok schema :=
  ofEntities_eq_ok_iff_holds.mpr schema.holds_values

theorem exists_ofEntities_eq_ok :
    (∃ schema, ofEntities entities = .ok schema) ↔ WellFormed entities := by
  constructor
  · rintro ⟨schema, h⟩
    have hholds := ofEntities_eq_ok_iff_holds.mp h
    refine ⟨hholds.distinct, fun entity hentity => (fits_iff_of_holds hholds).mp ?_⟩
    exact schema.fits (hholds.entity?.mpr ⟨hentity, rfl⟩)
  · intro h
    obtain ⟨table, hdeclare⟩ := Declarations.Holds.empty.exists_declare h.distinct
    have hholds := Declarations.Holds.empty.declare_eq_ok.mp hdeclare
    have hfaultless : table.fault? = none := by
      refine Declarations.fault?_eq_none.mpr fun name entity hentity => ?_
      exact (fits_iff_of_holds hholds).mpr (h.fits entity (hholds.entity?.mp hentity).1)
    exact ⟨⟨table, hfaultless⟩, ofEntities_eq_ok.mpr hdeclare⟩

theorem ofEntities_perm (hperm : entities.Perm others) (h : ofEntities entities = .ok schema) :
    ofEntities others = .ok schema :=
  ofEntities_eq_ok_iff_holds.mpr ((ofEntities_eq_ok_iff_holds.mp h).perm hperm)

/-- A path of declared properties stays inside the schema. -/
theorem isSome_reached (schema : Schema) {path : Path} {reached : EntityName}
    (hroot : (schema.entity? path.root).isSome)
    (hdeclared : ∀ hop ∈ path.hops, hop ∈ schema.propertiesOf hop.owner)
    (hreached : path.reached? = some reached) : (schema.entity? reached).isSome := by
  by_cases hne : path.hops = []
  · simp only [Path.reached?, Path.last?, hne, List.getLast?_nil, Option.some.injEq] at hreached
    rwa [← hreached]
  · obtain ⟨before, hop, rfl⟩ := Path.exists_eq_child hne
    rw [Path.reached?_child] at hreached
    exact schema.isSome_target (hdeclared hop (by simp [Path.child])) hreached

theorem map_name_identityOf (schema : Schema) {name : EntityName}
    (hentity : schema.entity? name = some entity) :
    (schema.identityOf name).map Property.name = entity.identity ∧
      ∀ property ∈ schema.identityOf name,
        property ∈ entity.properties ∧ property.owner = name := by
  constructor
  · rw [identityOf_eq hentity]
    exact (schema.fits hentity).map_name_identityProperties
  · intro property hproperty
    have hmem := mem_propertiesOf_of_mem_identityOf hproperty
    obtain ⟨found, hfound, hdeclared⟩ := mem_propertiesOf.mp hmem
    rw [hentity, Option.some.injEq] at hfound
    subst hfound
    exact ⟨hdeclared, schema.owner_eq hmem⟩

end Schema

namespace PropertyForm

/-- Either a kind or a target is given, and a scalar is not marked as many. -/
structure WellFormed (form : PropertyForm) : Prop where
  one : form.kind.isSome ≠ form.reference.isSome
  single : form.kind.isSome → form.many = false

structure Describes (owner : EntityName) (form : PropertyForm) (property : Property) : Prop where
  owner_eq : property.owner = owner
  name_eq : property.name = form.name
  scalar : ∀ kind, form.kind = some kind → property.range = .scalar kind
  reference : ∀ target, form.reference = some target →
    property.range = .reference target (if form.many then .many else .one)

theorem toProperty_eq_ok {owner : EntityName} {form : PropertyForm} {property : Property} :
    form.toProperty owner = .ok property ↔ form.WellFormed ∧ form.Describes owner property := by
  obtain ⟨name, kind, reference, many⟩ := form
  obtain ⟨owner', name', range⟩ := property
  constructor
  · intro h
    -- a property is only left for one scalar, one reference and many references
    cases kind <;> cases reference <;> cases many <;> cases h <;>
      exact ⟨⟨by simp, by simp⟩, ⟨rfl, rfl, by simp, by simp⟩⟩
  · rintro ⟨⟨hone, hsingle⟩, ⟨rfl, rfl, hscalar, hreference⟩⟩
    cases kind <;> cases reference <;> simp_all [toProperty]

end PropertyForm

namespace EntityForm

structure Describes (form : EntityForm) (entity : Entity) : Prop where
  name_eq : entity.name = form.name
  identity_eq : entity.identity = form.identity
  properties : List.Forall₂ (PropertyForm.Describes form.name) form.properties entity.properties

theorem toEntity_eq_ok {form : EntityForm} {entity : Entity} : form.toEntity = .ok entity ↔
    (∀ property ∈ form.properties, property.WellFormed) ∧ form.Describes entity := by
  obtain ⟨name, properties, identity⟩ := entity
  unfold toEntity
  rw [Result.bind_eq_ok]
  simp only [Result.mapM_eq_ok, PropertyForm.toProperty_eq_ok, List.forall₂_and_left]
  constructor
  · rintro ⟨_, ⟨hforms, hproperties⟩, ⟨⟩⟩
    exact ⟨hforms, rfl, rfl, hproperties⟩
  · rintro ⟨hforms, rfl, rfl, hproperties⟩
    exact ⟨properties, ⟨hforms, hproperties⟩, rfl⟩

end EntityForm

theorem ConfigError.checkVersion_eq_ok {version : Option UInt32} :
    checkVersion version = .ok () ↔ version = some 1 := by
  cases version with
  | none => simp [checkVersion]
  | some version => by_cases hone : version = 1 <;> simp [checkVersion, supportedVersion, hone]

theorem SchemaFile.toSchema_eq_ok {file : SchemaFile} {schema : Schema} :
    file.toSchema = .ok schema ↔
      (∀ form ∈ file.entities, ∀ property ∈ form.properties, property.WellFormed) ∧
      ∃ entities, List.Forall₂ EntityForm.Describes file.entities entities ∧
        Schema.ofEntities entities = .ok schema := by
  unfold toSchema
  rw [Result.bind_eq_ok]
  simp only [Result.mapM_eq_ok, EntityForm.toEntity_eq_ok, List.forall₂_and_left, and_assoc,
    exists_and_left]

namespace Schema

theorem ofFile_eq_ok {file : SchemaFile} {schema : Schema} : ofFile file = .ok schema ↔
    file.version = some 1 ∧ file.toSchema = .ok schema := by
  rw [← ConfigError.checkVersion_eq_ok]
  unfold ofFile
  cases ConfigError.checkVersion file.version with
  | error error => simp
  | ok _ => cases file.toSchema <;> simp [Except.mapError]

/-- Types form a schema if and only if they and their properties are told apart by their names, own
what they list, and refer to each other alone. The schema holds just them and would be the same if
they were given in another order. Wherever a path of declared properties leads, the type is
declared, and its identity is one of its own properties for each name. A file is a schema if and
only if it has the first version, each property is one scalar or a reference, and the types that are
described form the schema. -/
theorem ofEntities_exact :
    (∀ entities, (∃ schema, ofEntities entities = .ok schema) ↔ WellFormed entities) ∧
    (∀ entities schema, ofEntities entities = .ok schema →
      (∀ name entity, schema.entity? name = some entity ↔
        entity ∈ entities ∧ entity.name = name) ∧
      (∀ others, entities.Perm others → ofEntities others = .ok schema) ∧
      ∀ path : Path, (schema.entity? path.root).isSome →
        (∀ hop ∈ path.hops, hop ∈ schema.propertiesOf hop.owner) →
        ∀ reached, path.reached? = some reached → ∃ entity,
          schema.entity? reached = some entity ∧
          (schema.identityOf reached).map Property.name = entity.identity ∧
          ∀ property ∈ schema.identityOf reached,
            property ∈ entity.properties ∧ property.owner = reached) ∧
    ∀ file schema, ofFile file = .ok schema ↔
      file.version = some 1 ∧
      (∀ form ∈ file.entities, ∀ property ∈ form.properties, property.WellFormed) ∧
      ∃ entities, List.Forall₂ EntityForm.Describes file.entities entities ∧
        ofEntities entities = .ok schema := by
  refine ⟨fun entities => exists_ofEntities_eq_ok, fun entities schema h => ?_,
    fun file schema => ?_⟩
  · have hholds := ofEntities_eq_ok_iff_holds.mp h
    refine ⟨fun name entity => hholds.entity?, fun others hperm => ofEntities_perm hperm h,
      fun path hroot hdeclared reached hreached => ?_⟩
    obtain ⟨entity, hentity⟩ :=
      Option.isSome_iff_exists.mp (schema.isSome_reached hroot hdeclared hreached)
    exact ⟨entity, hentity, schema.map_name_identityOf hentity⟩
  · rw [ofFile_eq_ok, SchemaFile.toSchema_eq_ok]

end Schema

theorem Schema.ofEntities_exact_shop :
    ofEntities Shop.entities = .ok Shop.schema ∧
    ofEntities Shop.entities.reverse = .ok Shop.schema ∧
    (∃ entity, Shop.schema.entity? "Customer" = some entity ∧
      (Shop.schema.identityOf "Customer").map Property.name = entity.identity) ∧
    ¬∃ schema, ofEntities [⟨"Order", [Shop.orderBuyer], []⟩] = .ok schema := by
  obtain ⟨haccepts, hschema, _⟩ := ofEntities_exact
  obtain ⟨_, hperm, hreached⟩ := hschema _ _ Shop.ofEntities_entities
  obtain ⟨entity, hentity, hidentity, _⟩ :=
    hreached ⟨"Order", [Shop.orderBuyer]⟩ (by decide +kernel) (by decide +kernel) _ rfl
  refine ⟨Shop.ofEntities_entities, hperm _ (List.reverse_perm _).symm,
    ⟨entity, hentity, hidentity⟩, fun h => ?_⟩
  obtain ⟨other, hother, hname⟩ := (((haccepts _).mp h).fits _ (List.mem_singleton_self _)).inside
    Shop.orderBuyer (List.mem_singleton_self _) "Customer" rfl
  rw [List.mem_singleton.mp hother] at hname
  revert hname
  decide

end Reindex
