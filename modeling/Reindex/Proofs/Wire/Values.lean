import Reindex.Config.File
import Reindex.Mapping.File
import Reindex.Proofs.Dependency.Impact
import Reindex.Proofs.Wire.Records
import Reindex.Proofs.Wire.Stamps
import Reindex.Schema.File
import Reindex.Wire.Change

namespace Reindex

open Document

theorem ScalarKind.read?_toJson (kind : ScalarKind) : read? kind.toJson = some kind :=
  ofName?_name kind

theorem Cardinality.read?_toJson (cardinality : Cardinality) :
    read? cardinality.toJson = some cardinality :=
  ofName?_name cardinality

theorem Operation.ofJson?_toJson (operation : Operation) :
    ofJson? operation.toJson = some operation :=
  ofName?_name operation

theorem DuplicatePolicy.read?_toJson (policy : DuplicatePolicy) :
    read? policy.toJson = some policy :=
  ofName?_name policy

theorem text?_string (text : String) : text? (Json.string text) = some text := rfl

theorem list?_strings (texts : List String) : list? text? (Json.strings texts) = some texts :=
  list?_array text?_string texts

theorem Range.ofJson?_toJson (range : Range) : ofJson? range.toJson = some range := by
  cases range with
  | scalar kind => simp [ofJson?, toJson, Json.alternative?, ScalarKind.read?_toJson]
  | reference target cardinality =>
    simp only [ofJson?, toJson, Json.alternative?, Option.bind_eq_bind, Option.bind_some]
    rw [ofReference?, slots?_object (by decide) (List.Sublist.refl _)]
    simp [required, List.lookup_cons, text?_string, Cardinality.read?_toJson]

theorem Property.ofJson?_toJson (property : Property) :
    ofJson? property.toJson = some property := by
  rw [ofJson?, toJson, slots?_object (by decide) (List.Sublist.refl _)]
  simp [required, List.lookup_cons, text?_string, Range.ofJson?_toJson]

theorem Entity.ofJson?_toJson (entity : Entity) : ofJson? entity.toJson = some entity := by
  rw [ofJson?, toJson, slots?_object (by decide) (List.Sublist.refl _)]
  simp [required, List.lookup_cons, text?_string, list?_strings,
    list?_array Property.ofJson?_toJson]

theorem Path.ofJson?_toJson (path : Path) : ofJson? path.toJson = some path := by
  rw [ofJson?, toJson, slots?_object (by decide) (List.Sublist.refl _)]
  simp [required, List.lookup_cons, text?_string, list?_array Property.ofJson?_toJson]

theorem Change.instance?_object (entity : EntityName) (id : String) :
    instance? (.object [("entity", .string entity), ("id", .string id)]) = some (entity, id) := by
  rw [instance?, slots?_object (by decide) (List.Sublist.refl _)]
  simp [required, List.lookup_cons, text?_string]

theorem Change.ofJson?_toJson (change : Change) : ofJson? change.toJson = some change := by
  cases change with
  | created entity id | deleted entity id =>
    rw [ofJson?, toJson, Json.tagged?_object (by simp)]
    simp [instance?_object]
  | updated entity id properties =>
    rw [ofJson?, toJson, Json.tagged?_object (by simp)]
    simp only [Option.bind_eq_bind, Option.bind_some]
    rw [updated?, slots?_object (by decide) (List.Sublist.refl _)]
    simp [required, List.lookup_cons, text?_string, list?_strings]

theorem Target.ofJson?_toJson (target : Target) : ofJson? target.toJson = some target := by
  cases target with
  | single id =>
    rw [ofJson?, toJson, Json.tagged?_object (by simp)]
    simp only [Option.bind_eq_bind, Option.bind_some]
    rw [single?, slots?_object (by decide) (List.Sublist.refl _)]
    simp [required, text?_string]
  | dependents backPath changedEntity changedId =>
    rw [ofJson?, toJson, Json.tagged?_object (by simp)]
    simp only [Option.bind_eq_bind, Option.bind_some]
    rw [dependents?, slots?_object (by decide) (List.Sublist.refl _)]
    simp [required, List.lookup_cons, text?_string, Path.ofJson?_toJson]

theorem QueueItem.ofJson?_toJson {item : QueueItem}
    (h : Instant.ofText? item.createdAt.text = some item.createdAt) :
    ofJson? item.toJson = some item := by
  rw [ofJson?, toJson, slots?_object (by decide) (List.Sublist.refl _)]
  simp [required, List.lookup_cons, text?_string, Uuid.ofText?_text, Target.ofJson?_toJson,
    Operation.ofJson?_toJson, h]

theorem StandaloneField.read?_toJson (field : StandaloneField) :
    read? field.toJson = some field := by
  rw [read?, toJson, slots?_object (by decide) (List.Sublist.refl _)]
  simp [required, List.lookup_cons, text?_string]

theorem Definition.read?_toJson (definition : Definition) :
    read? definition.toJson = some definition := by
  obtain ⟨given, hgiven⟩ : ∃ given, definition.toJson = .object given := ⟨_, rfl⟩
  rw [read?, hgiven]
  simp only [toJson, List.cons_append, Json.object.injEq] at hgiven
  have hnames : (given.map Prod.fst).Sublist
      ["entity", "index_name", "include", "exclude", "standalone"] := by
    rw [← hgiven, List.map_cons, List.map_append]
    exact ((names_optional_sublist ..).append (List.Sublist.refl _)).cons_cons _
  have hindexName : optional text? "index_name" given = some definition.indexName :=
    optional_of_lookup (by simp [← hgiven, lookup_optional_append, List.lookup_cons])
      (fun _ => rfl) text?_string
  rw [slots?_object (by decide) (by exact hnames)]
  simp only [hindexName, Option.bind_eq_bind, Option.bind_some]
  simp [← hgiven, required, defaulted, lookup_optional_append, List.lookup_cons, text?_string,
    list?_strings, list?_array StandaloneField.read?_toJson]

theorem PropertyForm.read?_toJson (form : PropertyForm) : read? form.toJson = some form := by
  obtain ⟨given, hgiven⟩ : ∃ given, form.toJson = .object given := ⟨_, rfl⟩
  rw [read?, hgiven]
  simp only [toJson, List.cons_append, List.append_assoc, Json.object.injEq] at hgiven
  have hnames : (given.map Prod.fst).Sublist ["name", "type", "reference", "many"] := by
    rw [← hgiven, List.map_cons, List.map_append, List.map_append]
    exact ((names_optional_sublist ..).append
      ((names_optional_sublist ..).append (List.Sublist.refl _))).cons_cons _
  have hkind : optional ScalarKind.read? "type" given = some form.kind :=
    optional_of_lookup (by simp [← hgiven, lookup_optional_append, List.lookup_cons])
      (fun _ => rfl) ScalarKind.read?_toJson
  have hreference : optional text? "reference" given = some form.reference :=
    optional_of_lookup (by simp [← hgiven, lookup_optional_append, List.lookup_cons])
      (fun _ => rfl) text?_string
  have hmany : defaulted flag? false "many" given = some form.many :=
    defaulted_of_lookup (by simp [← hgiven, lookup_optional_append, List.lookup_cons]; rfl) rfl
  rw [slots?_object (by decide) (by exact hnames)]
  simp only [hkind, hreference, hmany, Option.bind_eq_bind, Option.bind_some]
  simp [← hgiven, required, text?_string]

theorem EntityForm.read?_toJson (form : EntityForm) : read? form.toJson = some form := by
  rw [read?, toJson, slots?_object (by decide) (List.Sublist.refl _)]
  simp [required, defaulted, List.lookup_cons, text?_string, list?_strings,
    list?_array PropertyForm.read?_toJson]

theorem DefinitionsFile.read?_toJson (file : DefinitionsFile) :
    read? file.toJson = some file := by
  rw [read?, toJson, slots?_object (by decide) (List.Sublist.refl _), Option.bind_eq_bind,
    Option.bind_some, optional_of_lookup_null List.lookup_cons_self (fun _ => rfl) word32?_nat]
  simp [defaulted, List.lookup_cons, list?_array Definition.read?_toJson]

theorem SchemaFile.read?_toJson (file : SchemaFile) : read? file.toJson = some file := by
  rw [read?, toJson, slots?_object (by decide) (List.Sublist.refl _), Option.bind_eq_bind,
    Option.bind_some, optional_of_lookup_null List.lookup_cons_self (fun _ => rfl) word32?_nat]
  simp [defaulted, List.lookup_cons, list?_array EntityForm.read?_toJson]

theorem Settings.readMap?_mapToJson (map : SettingMap) :
    readMap? (mapToJson map) = some map := by
  have hvalue : ∀ value : Json.Normal, value? value.val = some value := by
    intro value
    exact congrArg some (Subtype.ext value.property)
  exact map?_object hvalue map

theorem Settings.read?_toJson (settings : Settings) : read? settings.toJson = some settings := by
  obtain ⟨given, hgiven⟩ : ∃ given, settings.toJson = .object given := ⟨_, rfl⟩
  rw [read?, hgiven]
  simp only [toJson, unless_eq_optional, Json.object.injEq] at hgiven
  have hnames : (given.map Prod.fst).Sublist ["common", "entities"] := by
    rw [← hgiven, List.map_append]
    exact (names_optional_sublist ..).append (names_optional_sublist ..)
  have hcommon : defaulted readMap? ∅ "common" given = some settings.common :=
    defaulted_of_lookup_unless Std.ExtTreeMap.isEmpty_iff.mp
      (by rw [← hgiven, lookup_optional_append, lookup_optional]; simp) (readMap?_mapToJson _)
  have hentities : defaulted (map? readMap?) ∅ "entities" given = some settings.entities :=
    defaulted_of_lookup_unless Std.ExtTreeMap.isEmpty_iff.mp
      (by rw [← hgiven, lookup_optional_append, lookup_optional]; rfl)
      (map?_object readMap?_mapToJson _)
  rw [slots?_object (by decide) (by exact hnames)]
  simp only [hcommon, hentities, Option.bind_eq_bind, Option.bind_some]

theorem ConfigFile.read?_toJson (file : ConfigFile) : read? file.toJson = some file := by
  obtain ⟨given, hgiven⟩ : ∃ given, file.toJson = .object given := ⟨_, rfl⟩
  rw [read?, hgiven]
  simp only [toJson, member, List.append_assoc, Json.object.injEq] at hgiven
  have hnames : (given.map Prod.fst).Sublist ["version", "index_name_prefix", "max_path_depth",
      "duplicate_definitions", "settings"] := by
    simp only [← hgiven, List.map_append]
    exact (names_optional_sublist ..).append ((names_optional_sublist ..).append
      ((names_optional_sublist ..).append ((names_optional_sublist ..).append
        (names_optional_sublist ..))))
  have hversion : optional word32? "version" given = some file.version :=
    optional_of_lookup (by simp [← hgiven, lookup_optional_append, lookup_optional])
      (fun _ => rfl) word32?_nat
  have hindexStem : optional text? "index_name_prefix" given = some file.indexStem :=
    optional_of_lookup (by simp [← hgiven, lookup_optional_append, lookup_optional])
      (fun _ => rfl) text?_string
  have hpathLimit : optional word64? "max_path_depth" given = some file.pathLimit :=
    optional_of_lookup (by simp [← hgiven, lookup_optional_append, lookup_optional])
      (fun _ => rfl) word64?_nat
  have hduplicates :
      optional DuplicatePolicy.read? "duplicate_definitions" given = some file.duplicates :=
    optional_of_lookup (by simp [← hgiven, lookup_optional_append, lookup_optional])
      (fun _ => rfl) DuplicatePolicy.read?_toJson
  have hsettings : optional Settings.read? "settings" given = some file.settings :=
    optional_of_lookup (by simp [← hgiven, lookup_optional_append, lookup_optional])
      (fun _ => rfl) Settings.read?_toJson
  rw [slots?_object (by decide) (by exact hnames)]
  simp only [hversion, hindexStem, hpathLimit, hduplicates, hsettings, Option.bind_eq_bind,
    Option.bind_some]

/-- What is written is read again, and no two values of one type are written alike. A request comes
back if its time does, as the time of every instant does that a clock can show. -/
theorem Json.forms_exact :
    RoundTrips Range.toJson Range.ofJson? ∧ RoundTrips Entity.toJson Entity.ofJson? ∧
    RoundTrips Path.toJson Path.ofJson? ∧ RoundTrips Change.toJson Change.ofJson? ∧
    RoundTrips Target.toJson Target.ofJson? ∧ RoundTrips Definition.toJson Definition.read? ∧
    RoundTrips DefinitionsFile.toJson DefinitionsFile.read? ∧
    RoundTrips SchemaFile.toJson SchemaFile.read? ∧ RoundTrips Settings.toJson Settings.read? ∧
    RoundTrips ConfigFile.toJson ConfigFile.read? ∧
    (∀ instant : Instant, instant.IsValid → Instant.ofText? instant.text = some instant) ∧
    (∀ item : QueueItem, Instant.ofText? item.createdAt.text = some item.createdAt →
      QueueItem.ofJson? item.toJson = some item) ∧
    Set.InjOn QueueItem.toJson
      {item | Instant.ofText? item.createdAt.text = some item.createdAt} := by
  refine ⟨.of_read_write Range.ofJson?_toJson, .of_read_write Entity.ofJson?_toJson,
    .of_read_write Path.ofJson?_toJson, .of_read_write Change.ofJson?_toJson,
    .of_read_write Target.ofJson?_toJson, .of_read_write Definition.read?_toJson,
    .of_read_write DefinitionsFile.read?_toJson, .of_read_write SchemaFile.read?_toJson,
    .of_read_write Settings.read?_toJson, .of_read_write ConfigFile.read?_toJson, ?_, ?_, ?_⟩
  · exact fun instant hvalid => Instant.ofText?_text hvalid
  · exact fun item hdated => QueueItem.ofJson?_toJson hdated
  · intro item hdated other hother heq
    exact eq_of_read_write (QueueItem.ofJson?_toJson hdated) (QueueItem.ofJson?_toJson hother) heq

def Shop.lateRequest : QueueItem where
  id := ⟨List.replicate 32 ⟨10, by decide⟩, by decide⟩
  request := .ofDependents "Order" ⟨"Order", [orderBuyer, customerCompany]⟩ "Company" "c1"
  createdAt := ⟨⟨2016, 12, 31⟩, 86399, 1500000000⟩

theorem Json.forms_exact_shop : Shop.lateRequest.createdAt.IsValid ∧
    QueueItem.ofJson? Shop.lateRequest.toJson = some Shop.lateRequest := by
  obtain ⟨_, _, _, _, _, _, _, _, _, _, hinstants, hitems, _⟩ := Json.forms_exact
  have hvalid : Shop.lateRequest.createdAt.IsValid := by decide
  exact ⟨hvalid, hitems _ (hinstants _ hvalid)⟩

end Reindex
