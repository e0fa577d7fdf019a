import Reindex.Proofs.Mapping.Dotted
import Reindex.Proofs.Mapping.Misfits
import Reindex.Proofs.Mapping.Rearranged

namespace Reindex

def Definition.texts (definition : Definition) : List String :=
  definition.included ++ (definition.excluded ++ definition.standalone.map StandaloneField.path)

namespace Schema

variable {schema : Schema} {config : Config} {definition : Definition} {root : EntityName}
  {texts : List String} {text : String} {path : Path} {paths : List Path} {field : Field}
  {fields : List Field} {index : Index} {error : TrackingError}

def Yields (schema : Schema) (root : EntityName) (text : String) (path : Path) : Prop :=
  ∃ paths, schema.resolve root text = .ok paths ∧ path ∈ paths

/-- An included path that neither is an excluded one nor goes on from one. -/
structure Keeps (schema : Schema) (definition : Definition) (path : Path) : Prop where
  included : ∃ text ∈ definition.included, schema.Yields definition.entity text path
  spared : ∀ text ∈ definition.excluded, ∀ cut, schema.Yields definition.entity text cut →
    ∀ rest, path ≠ cut.extend rest

def fieldsOf (schema : Schema) (definition : Definition) : Except TrackingError (List Field) := do
  let included ← schema.resolveAll definition.entity definition.included
  let excluded ← schema.resolveAll definition.entity definition.excluded
  let standalone ← schema.standaloneFields definition.entity definition.standalone
  pure ((included.filter fun path => !excluded.any path.startsWith).map Field.ofPath ++ standalone)

theorem indexOf_eq (hroot : (schema.entity? definition.entity).isSome) :
    schema.indexOf config definition = schema.fieldsOf definition >>=
      Index.ofFields definition.entity (definition.nameUnder config) := by
  obtain ⟨entity, hentity⟩ := Option.isSome_iff_exists.mp hroot
  simp [indexOf, fieldsOf, hentity, Definition.nameUnder]

theorem mem_resolveAll (h : schema.resolveAll root texts = .ok paths) :
    path ∈ paths ↔ ∃ text ∈ texts, schema.Yields root text path := by
  obtain ⟨lists, hlists, rfl⟩ := Result.map_eq_ok.mp h
  simp only [List.mem_flatten, Result.mem_mapM hlists, Yields]
  constructor
  · rintro ⟨list, ⟨text, htext, hresolve⟩, hpath⟩
    exact ⟨text, htext, list, hresolve, hpath⟩
  · rintro ⟨text, htext, list, hresolve, hpath⟩
    exact ⟨list, ⟨text, htext, hresolve⟩, hpath⟩

theorem mem_standaloneFields {declared : List StandaloneField}
    (h : schema.standaloneFields root declared = .ok fields) :
    field ∈ fields ↔ ∃ given ∈ declared, ∃ path, schema.Yields root given.path path ∧
      field = .standaloneAt given.field path := by
  obtain ⟨lists, hlists, rfl⟩ := Result.map_eq_ok.mp h
  simp only [List.mem_flatten, Result.mem_mapM hlists, Result.map_eq_ok, Yields]
  constructor
  · rintro ⟨_, ⟨given, hgiven, paths, hresolve, rfl⟩, hfield⟩
    obtain ⟨path, hpath, rfl⟩ := List.mem_map.mp hfield
    exact ⟨given, hgiven, path, ⟨paths, hresolve, hpath⟩, rfl⟩
  · rintro ⟨given, hgiven, path, ⟨paths, hresolve, hpath⟩, rfl⟩
    exact ⟨_, ⟨given, hgiven, paths, hresolve, rfl⟩, List.mem_map_of_mem hpath⟩

theorem fieldsOf_eq_ok :
    schema.fieldsOf definition = .ok fields ↔ ∃ included excluded standalone,
      schema.resolveAll definition.entity definition.included = .ok included ∧
      schema.resolveAll definition.entity definition.excluded = .ok excluded ∧
      schema.standaloneFields definition.entity definition.standalone = .ok standalone ∧
      (included.filter fun path => !excluded.any path.startsWith).map Field.ofPath ++
        standalone = fields := by
  simp [fieldsOf, Result.bind_eq_ok, pure, Except.pure]

theorem mem_fieldsOf (h : schema.fieldsOf definition = .ok fields) :
    field ∈ fields ↔ (∃ path, schema.Keeps definition path ∧ field = .ofPath path) ∨
      ∃ given ∈ definition.standalone, ∃ path,
        schema.Yields definition.entity given.path path ∧
          field = .standaloneAt given.field path := by
  obtain ⟨included, excluded, standalone, hincluded, hexcluded, hstandalone, rfl⟩ :=
    fieldsOf_eq_ok.mp h
  have hkeeps : ∀ path, schema.Keeps definition path ↔
      path ∈ included ∧ (!excluded.any path.startsWith) = true := by
    intro path
    have hspared : (!excluded.any path.startsWith) = true ↔
        ∀ cut ∈ excluded, ∀ rest, path ≠ cut.extend rest := by
      simp [Path.startsWith_iff, ← Bool.not_eq_true]
    rw [hspared, mem_resolveAll hincluded]
    simp only [mem_resolveAll hexcluded]
    constructor
    · rintro ⟨hyields, hout⟩
      exact ⟨hyields, fun cut ⟨text, htext, hcut⟩ => hout text htext cut hcut⟩
    · rintro ⟨hyields, hout⟩
      exact ⟨hyields, fun text htext cut hcut => hout cut ⟨text, htext, hcut⟩⟩
  rw [List.mem_append, mem_standaloneFields hstandalone, List.mem_map]
  simp only [List.mem_filter, hkeeps, eq_comm]

theorem standaloneFields_eq_error {declared : List StandaloneField} :
    schema.standaloneFields root declared = .error error ↔
      (declared.map StandaloneField.path).mapM (schema.resolve root) = .error error := by
  rw [standaloneFields, Result.map_eq_error, List.mapM_map]
  simp only [Result.mapM_eq_error, Result.map_eq_ok, Result.map_eq_error]
  simp

/-- The first text that does not resolve decides the error. -/
theorem fieldsOf_eq_error :
    schema.fieldsOf definition = .error error ↔
      definition.texts.mapM (schema.resolve definition.entity) = .error error := by
  simp only [Definition.texts, Result.mapM_append_eq_error, ← standaloneFields_eq_error]
  simp [fieldsOf, resolveAll, Result.bind_eq_error, Result.map_eq_error, Result.map_eq_ok, pure,
    Except.pure]

theorem Yields.admits (hroot : (schema.entity? root).isSome)
    (h : schema.Yields root text path) : path.root = root ∧ schema.Admits path := by
  obtain ⟨paths, hresolve, hpath⟩ := h
  obtain ⟨hstart, hdeclares⟩ := declares_of_resolve hresolve path hpath
  obtain ⟨_, _, _, _, _, _, _, _, _, rfl⟩ := (resolve_eq_ok hroot).mp hresolve
  obtain ⟨hop, _, rfl⟩ := List.mem_map.mp hpath
  exact ⟨hstart, hdeclares.admits (by simp [Path.child])⟩

theorem admits_of_fieldsOf
    (hroot : (schema.entity? definition.entity).isSome)
    (h : schema.fieldsOf definition = .ok fields) :
    ∀ field ∈ fields, field.path.root = definition.entity ∧ schema.Admits field.path := by
  intro field hfield
  rcases (mem_fieldsOf h).mp hfield with ⟨path, hkeeps, rfl⟩ | ⟨given, _, path, hyields, rfl⟩
  · obtain ⟨text, _, hyields⟩ := hkeeps.included
    exact hyields.admits hroot
  · exact hyields.admits hroot

theorem fits_of_fieldsOf
    (hroot : (schema.entity? definition.entity).isSome)
    (h : schema.fieldsOf definition = .ok fields) :
    ∀ field ∈ fields, Index.Fits definition.entity field := by
  intro field hfield
  obtain ⟨hstart, hadmits⟩ := admits_of_fieldsOf hroot h field hfield
  exact ⟨hadmits.nonempty, hstart⟩

theorem holds_of_indexOf (h : schema.indexOf config definition = .ok index) :
    ∃ fields, schema.fieldsOf definition = .ok fields ∧
      index.Holds definition.entity (definition.nameUnder config) fields := by
  have hroot := (indexOf_eq_ok.mp h).1
  rw [indexOf_eq hroot] at h
  obtain ⟨fields, hfields, hindex⟩ := Result.bind_eq_ok.mp h
  exact ⟨fields, hfields, (Index.ofFields_eq_ok.mp hindex).2⟩

/-- A definition of a declared type is refused for its first text that does not resolve, or else for
the first field whose name stands for another field already. -/
theorem indexOf_eq_error
    (hroot : (schema.entity? definition.entity).isSome) :
    schema.indexOf config definition = .error error ↔
      (∃ before text after, definition.texts = before ++ text :: after ∧
        (∀ earlier ∈ before, ∃ paths, schema.resolve definition.entity earlier = .ok paths) ∧
        schema.resolve definition.entity text = .error error) ∨
      ∃ before field after known, schema.fieldsOf definition = .ok (before ++ field :: after) ∧
        (∃ index, Index.ofFields definition.entity (definition.nameUnder config) before =
          .ok index) ∧
        known ∈ before ∧ known.name = field.name ∧ known ≠ field ∧
        error = .duplicateField definition.entity field.name := by
  rw [indexOf_eq hroot, Result.bind_eq_error, fieldsOf_eq_error, Result.mapM_eq_error]
  refine or_congr_right ?_
  constructor
  · rintro ⟨fields, hfields, herror⟩
    obtain ⟨before, field, after, rfl, hbefore, hmisfit⟩ := Index.ofFields_eq_error.mp herror
    have hfits := fits_of_fieldsOf hroot hfields field (by simp)
    cases hmisfit with
    | empty hempty => exact absurd hempty hfits.1
    | foreign _ hforeign => exact absurd hfits.2 hforeign
    | conflict _ hknown hname hdiffers =>
      exact ⟨before, field, after, _, hfields, hbefore, hknown, hname, hdiffers, rfl⟩
  · rintro ⟨before, field, after, known, hfields, hbefore, hknown, hname, hdiffers, rfl⟩
    have hfits := fits_of_fieldsOf hroot hfields field (by simp)
    have hmisfit := Index.Misfit.conflict hfits hknown hname hdiffers
    exact ⟨_, hfields, Index.ofFields_eq_error.mpr ⟨before, field, after, rfl, hbefore, hmisfit⟩⟩

theorem exists_indexOf_eq_error (hroot : (schema.entity? definition.entity).isSome)
    (htext : text ∈ definition.texts)
    (hfault : ∃ fault, schema.resolve definition.entity text = .error fault) :
    ∃ error, schema.indexOf config definition = .error error := by
  obtain ⟨error, herror⟩ := Result.exists_mapM_eq_error.mpr ⟨text, htext, hfault⟩
  refine ⟨error, ?_⟩
  rw [indexOf_eq hroot, fieldsOf_eq_error.mpr herror]
  rfl

theorem Offends.kinds {dotted : String} {owner : EntityName} {segment : String}
    {after : List String} (h : schema.Offends dotted owner segment after error) :
    (∃ owner name hint, error = .unknownProperty owner name hint) ∨
      ∃ owner name, error = .notAReference owner name dotted := by
  cases h with
  | star _ => exact Or.inl ⟨_, _, _, rfl⟩
  | unknown _ _ => exact Or.inl ⟨_, _, _, rfl⟩
  | scalar _ _ _ => exact Or.inr ⟨_, _, rfl⟩

theorem indexOf_error_kinds
    (hroot : (schema.entity? definition.entity).isSome)
    (h : schema.indexOf config definition = .error error) :
    (error = .emptyPath definition.entity ∧ ∃ text ∈ definition.texts, "" ∈ segments text) ∨
      (∃ owner name hint, error = .unknownProperty owner name hint) ∨
      (∃ owner name text, error = .notAReference owner name text) ∨
      ∃ name, error = .duplicateField definition.entity name := by
  rcases (indexOf_eq_error hroot).mp h with
    ⟨before, text, after, htexts, _, hfault⟩ | ⟨_, field, _, _, _, _, _, _, _, rfl⟩
  · rcases (resolve_eq_error hroot).mp hfault with
      ⟨hempty, rfl⟩ | ⟨_, _, _, _, _, _, _, _, hoffends⟩
    · exact Or.inl ⟨rfl, text, by simp [htexts], hempty⟩
    · rcases hoffends.kinds with hunknown | ⟨owner, name, rfl⟩
      · exact Or.inr (Or.inl hunknown)
      · exact Or.inr (Or.inr (Or.inl ⟨owner, name, text, rfl⟩))
  · exact Or.inr (Or.inr (Or.inr ⟨field.name, rfl⟩))

theorem exists_clash_of_indexOf
    (hroot : (schema.entity? definition.entity).isSome) {entity : EntityName} {name : String}
    (h : schema.indexOf config definition = .error (.duplicateField entity name)) :
    ∃ fields, schema.fieldsOf definition = .ok fields ∧
      ∃ field ∈ fields, ∃ known ∈ fields, known.name = field.name ∧ known ≠ field := by
  rcases (indexOf_eq_error hroot).mp h with
    ⟨_, _, _, _, _, hfault⟩ | ⟨_, field, _, known, hfields, _, hknown, hname, hdiffers, _⟩
  · rcases (resolve_eq_error hroot).mp hfault with
      ⟨_, hempty⟩ | ⟨_, _, _, _, _, _, _, _, hoffends⟩
    · cases hempty
    · rcases hoffends.kinds with ⟨_, _, _, hunknown⟩ | ⟨_, _, hscalar⟩
      · cases hunknown
      · cases hscalar
  · exact ⟨_, hfields, field, by simp, known, by simp [hknown], hname, hdiffers⟩

theorem mem_trackedFields_of_indexOf (h : schema.indexOf config definition = .ok index) :
    field ∈ index.trackedFields ↔ ∃ path, schema.Keeps definition path ∧ field = .ofPath path := by
  obtain ⟨fields, hfields, hholds⟩ := holds_of_indexOf h
  rw [Index.mem_trackedFields, hholds.mem_fieldList, mem_fieldsOf hfields]
  constructor
  · rintro ⟨hkept | ⟨_, _, _, _, rfl⟩, htracked⟩
    · exact hkept
    · cases htracked
  · rintro ⟨path, hkeeps, rfl⟩
    exact ⟨Or.inl ⟨path, hkeeps, rfl⟩, rfl⟩

theorem mem_standalone_of_indexOf (h : schema.indexOf config definition = .ok index) :
    field ∈ index.fieldList ∧ field.standalone = true ↔
      ∃ given ∈ definition.standalone, ∃ path,
        schema.Yields definition.entity given.path path ∧
          field = .standaloneAt given.field path := by
  obtain ⟨fields, hfields, hholds⟩ := holds_of_indexOf h
  rw [hholds.mem_fieldList, mem_fieldsOf hfields]
  constructor
  · rintro ⟨⟨_, _, rfl⟩ | hgiven, hstandalone⟩
    · cases hstandalone
    · exact hgiven
  · rintro ⟨given, hgiven, path, hyields, rfl⟩
    exact ⟨Or.inr ⟨given, hgiven, path, hyields, rfl⟩, rfl⟩

/-- The tracked fields of the index of a definition are the included paths that neither are excluded
nor go on from an excluded one, each under its dotted name. The standalone fields are the declared
ones, whatever is excluded. The index affects its root and the types that these fields cross, so an
excluded branch leaves no trace. A definition of a declared type is refused where one of its texts
does not resolve; no type is then missing, no root foreign, and no path empty but for an empty
segment. -/
theorem indexOf_exact (schema : Schema) (config : Config) (definition : Definition) :
    (∀ index, schema.indexOf config definition = .ok index →
      (∀ key field, index.field? key = some field ↔ field ∈ index.fieldList ∧ field.name = key) ∧
      (∀ field, field ∈ index.trackedFields ↔
        ∃ path, schema.Keeps definition path ∧ field = ⟨path.dotted, path, false⟩) ∧
      (∀ field, field ∈ index.fieldList ∧ field.standalone = true ↔
        ∃ given ∈ definition.standalone, ∃ path,
          schema.Yields definition.entity given.path path ∧ field = ⟨given.field, path, true⟩) ∧
      (∀ other, other ∈ index.affected ↔ other = definition.entity ∨
        ∃ field ∈ index.fieldList, ∃ hop ∈ field.path.hops, hop.range.target? = some other)) ∧
    ((schema.entity? definition.entity).isSome →
      (∀ text ∈ definition.texts, (∃ fault, schema.resolve definition.entity text = .error fault) →
        ∃ error, schema.indexOf config definition = .error error) ∧
      ∀ error, schema.indexOf config definition = .error error →
        (∀ entity, error ≠ .unknownEntity entity) ∧
        (∀ entity name start, error ≠ .foreignRoot entity name start) ∧
        ∀ entity, error = .emptyPath entity → ∃ text ∈ definition.texts, "" ∈ segments text) := by
  constructor
  · intro index hindex
    obtain ⟨fields, _, hholds⟩ := holds_of_indexOf hindex
    refine ⟨fun key field => ?_, fun field => mem_trackedFields_of_indexOf hindex,
      fun field => mem_standalone_of_indexOf hindex, fun other => ?_⟩
    · rw [hholds.field?, hholds.mem_fieldList]
    · rw [hholds.affected]
      simp only [hholds.mem_fieldList, Path.mem_targets]
  · intro hroot
    refine ⟨fun text => exists_indexOf_eq_error hroot, fun error herror => ?_⟩
    rcases indexOf_error_kinds hroot herror with
      ⟨rfl, hempty⟩ | ⟨_, _, _, rfl⟩ | ⟨_, _, _, rfl⟩ | ⟨_, rfl⟩
    · exact ⟨by simp, by simp, fun _ _ => hempty⟩
    · simp
    · simp
    · simp

end Schema

namespace Shop

/-- All of the buyer but name and company; the name is shown by code. -/
def sparing : Definition :=
  ⟨"Order", none, ["number", "buyer.*"], ["buyer.company", "buyer.name"],
    [⟨"_label", "buyer.name"⟩]⟩

def sparingIndex : Index :=
  (schema.indexOf Config.standard sparing).toOption.getD (.bare "" "")

theorem indexOf_sparing : schema.indexOf Config.standard sparing = .ok sparingIndex := by rfl

end Shop

theorem Schema.indexOf_exact_shop :
    Schema.ofEntities Shop.entities = .ok Shop.schema ∧
      Shop.schema.indexOf Config.standard Shop.sparing = .ok Shop.sparingIndex ∧
      Shop.schema.Keeps Shop.sparing ⟨"Order", [Shop.orderBuyer, Shop.customerReferrers]⟩ ∧
      ¬Shop.schema.Keeps Shop.sparing ⟨"Order", [Shop.orderBuyer, Shop.customerName]⟩ ∧
      "Company" ∉ Shop.sparingIndex.affected ∧
      ∃ error, Shop.schema.indexOf Config.standard ⟨"Order", none, [], ["buyer.nmae"], []⟩ =
        .error error := by
  obtain ⟨hexact, _⟩ :=
    Schema.indexOf_exact Shop.schema Config.standard Shop.sparing
  obtain ⟨_, htracked, _, haffected⟩ := hexact Shop.sparingIndex Shop.indexOf_sparing
  refine ⟨Shop.ofEntities_entities, Shop.indexOf_sparing, ?_, ?_, ?_, ?_⟩
  · have hmem : ⟨"buyer.referrers", ⟨"Order", [Shop.orderBuyer, Shop.customerReferrers]⟩, false⟩ ∈
        Shop.sparingIndex.trackedFields := by decide +kernel
    obtain ⟨path, hkeeps, hpath⟩ := (htracked _).mp hmem
    have hsame : ⟨"Order", [Shop.orderBuyer, Shop.customerReferrers]⟩ = path :=
      congrArg Field.path hpath
    rw [hsame]
    exact hkeeps
  · intro hkeeps
    have hmem := (htracked _).mpr ⟨_, hkeeps, rfl⟩
    revert hmem
    decide +kernel
  · rw [haffected]
    decide +kernel
  · have hfault : ∃ fault, Shop.schema.resolve "Order" "buyer.nmae" = .error fault := ⟨_, rfl⟩
    have hroot : (Shop.schema.entity? "Order").isSome := by decide +kernel
    exact ((Schema.indexOf_exact Shop.schema Config.standard
      ⟨"Order", none, [], ["buyer.nmae"], []⟩).2 hroot).1 _ (by simp [Definition.texts]) hfault

end Reindex
