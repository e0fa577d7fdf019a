import Reindex.Proofs.Mapping.Selected

namespace Reindex

namespace Path

variable {path : Path}

theorem toList_dotted (path : Path) :
    path.dotted.toList =
      Text.Segments.join '.' ((path.hops.map Property.name).map String.toList) := by
  rw [dotted, String.toList_ofList, List.map_map]
  rfl

theorem toList_dotted_append (hnonempty : path.hops ≠ []) (segment : String) :
    (path.dotted ++ "." ++ segment).toList =
      Text.Segments.join '.' ((path.hops.map Property.name ++ [segment]).map String.toList) := by
  have hnames : (path.hops.map Property.name).map String.toList ≠ [] := by simpa using hnonempty
  have hdot : ".".toList = ['.'] := rfl
  rw [List.map_append, List.map_singleton, Text.Segments.join_concat '.' hnames, ← toList_dotted,
    String.toList_append, String.toList_append, hdot, List.append_assoc, List.singleton_append]

theorem dotted_child (hnonempty : path.hops ≠ []) (hop : Property) :
    (path.child hop).dotted = path.dotted ++ "." ++ hop.name := by
  apply String.toList_injective
  rw [toList_dotted_append hnonempty, toList_dotted, child, List.map_append, List.map_singleton]

end Path

namespace Schema

/-- Dots do not cut the text, and nothing is trimmed off it. -/
structure IsSegment (text : String) : Prop where
  dotless : '.' ∉ text.toList
  trimmed : Text.trim text.toList = text.toList

structure IsPlain (name : String) : Prop extends IsSegment name where
  nonempty : name ≠ ""
  starless : name ≠ wildcard

instance (name : String) : Decidable (IsPlain name) :=
  decidable_of_iff (('.' ∉ name.toList ∧ Text.trim name.toList = name.toList) ∧
      name ≠ "" ∧ name ≠ wildcard)
    ⟨fun ⟨⟨hdotless, htrimmed⟩, hnonempty, hstarless⟩ =>
      ⟨⟨hdotless, htrimmed⟩, hnonempty, hstarless⟩,
      fun h => ⟨⟨h.dotless, h.trimmed⟩, h.nonempty, h.starless⟩⟩

def HasPlainNames (schema : Schema) : Prop :=
  ∀ entity ∈ schema.entities.values, ∀ property ∈ entity.properties, IsPlain property.name

instance (schema : Schema) : Decidable schema.HasPlainNames :=
  inferInstanceAs (Decidable (∀ entity ∈ schema.entities.values,
    ∀ property ∈ entity.properties, IsPlain property.name))

variable {schema : Schema} {config : Config} {definition : Definition} {path other : Path}
  {target : EntityName}

theorem HasPlainNames.isPlain (h : schema.HasPlainNames) {owner : EntityName} {hop : Property}
    (hhop : hop ∈ schema.propertiesOf owner) : IsPlain hop.name := by
  obtain ⟨entity, hentity, hmem⟩ := mem_propertiesOf.mp hhop
  exact h entity ((Table.mem_values _ _).mpr ⟨owner, hentity⟩) hop hmem

theorem isSegment_wildcard : IsSegment wildcard := ⟨by decide, by decide⟩

theorem segments_of_join {names : List String} (hnames : names ≠ [])
    (hsegments : ∀ name ∈ names, IsSegment name) {dotted : String}
    (hdotted : dotted.toList = Text.Segments.join '.' (names.map String.toList)) :
    segments dotted = names := by
  have hsplit : Text.Segments.split '.' dotted.toList = names.map String.toList := by
    rw [hdotted]
    apply Text.Segments.split_join
    · simpa using hnames
    · intro segment hsegment
      obtain ⟨name, hname, rfl⟩ := List.mem_map.mp hsegment
      exact (hsegments name hname).dotless
  have hself : ∀ name ∈ names, String.ofList (Text.trim name.toList) = name := by
    intro name hname
    rw [(hsegments name hname).trimmed, String.ofList_toList]
  rw [segments, hsplit, List.map_map]
  exact (List.map_congr_left hself).trans (List.map_id names)

theorem Admits.isPlain (h : schema.Admits path) (hplain : schema.HasPlainNames) :
    ∀ name ∈ path.hops.map Property.name, IsPlain name := by
  intro name hname
  obtain ⟨hop, hhop, rfl⟩ := List.mem_map.mp hname
  exact hplain.isPlain (h.declared hop hhop)

theorem Admits.segments_dotted (h : schema.Admits path) (hplain : schema.HasPlainNames) :
    segments path.dotted = path.hops.map Property.name := by
  apply segments_of_join (by simpa using h.nonempty) _ path.toList_dotted
  exact fun name hname => (h.isPlain hplain name hname).toIsSegment

theorem Admits.segments_dotted_append (h : schema.Admits path) (hplain : schema.HasPlainNames)
    {segment : String} (hsegment : IsSegment segment) :
    segments (path.dotted ++ "." ++ segment) = path.hops.map Property.name ++ [segment] := by
  apply segments_of_join (by simp) _ (Path.toList_dotted_append h.nonempty segment)
  intro name hname
  rcases List.mem_append.mp hname with hname | hname
  · exact (h.isPlain hplain name hname).toIsSegment
  · rw [List.mem_singleton.mp hname]
    exact hsegment

/-- The names of declared hops lead along these hops. -/
theorem DeclaresFrom.leads (hplain : schema.HasPlainNames) {owner : EntityName}
    {hops : List Property} (h : schema.DeclaresFrom owner hops)
    (hreached : (Path.mk owner hops).reached? = some target) :
    schema.Leads owner (hops.map Property.name) hops target := by
  induction hops generalizing owner with
  | nil =>
    cases hreached
    exact .stay owner
  | cons hop hops ih =>
    have hdenotes : schema.Denotes owner hop.name hop := ⟨(hplain.isPlain h.1).starless, h.1, rfl⟩
    cases htarget : hop.range.target? with
    | none =>
      have hnil : hops = [] := by simpa [htarget] using h.2
      simp [hnil, Path.reached?, Path.last?, htarget] at hreached
    | some next =>
      rw [Path.reached?_cons htarget] at hreached
      exact .step hdenotes htarget (ih (h.tail htarget) hreached)

theorem resolve_dotted (hplain : schema.HasPlainNames)
    (h : schema.Admits path) : schema.resolve path.root path.dotted = .ok [path] := by
  have hsegments := h.segments_dotted hplain
  have hempty : "" ∉ segments path.dotted := by
    rw [hsegments]
    exact fun hmem => (h.isPlain hplain "" hmem).nonempty rfl
  obtain ⟨before, last, rfl⟩ := Path.exists_eq_child h.nonempty
  obtain ⟨hbefore, reached, hreached, hlast⟩ := h.declares.of_child
  have hselects : schema.Selects reached last.name [last] :=
    .one ⟨(hplain.isPlain hlast).starless, hlast, rfl⟩
  rw [Path.child, List.map_append, List.map_singleton] at hsegments
  exact resolve_of_selects hempty hsegments (hbefore.leads hplain hreached) hselects

theorem resolve_dotted_star (hplain : schema.HasPlainNames)
    (h : schema.Admits path) (hreached : path.reached? = some target) :
    schema.resolve path.root (path.dotted ++ ".*") =
      .ok ((schema.propertiesOf target).map path.child) := by
  have hstar : path.dotted ++ ".*" = path.dotted ++ "." ++ wildcard := by
    rw [String.append_assoc]
    rfl
  have hsegments := h.segments_dotted_append hplain isSegment_wildcard
  have hempty : "" ∉ segments (path.dotted ++ "." ++ wildcard) := by
    rw [hsegments, List.mem_append, not_or]
    exact ⟨fun hmem => (h.isPlain hplain "" hmem).nonempty rfl, by decide⟩
  rw [hstar]
  have hleads := DeclaresFrom.leads hplain h.declares hreached
  exact resolve_of_selects hempty hsegments hleads .all

theorem dotted_injective (hplain : schema.HasPlainNames)
    (h : schema.Admits path) (hother : schema.Admits other) (hroot : path.root = other.root)
    (hdotted : path.dotted = other.dotted) : path = other := by
  have hresolve := resolve_dotted hplain h
  rw [hroot, hdotted, resolve_dotted hplain hother, Except.ok.injEq] at hresolve
  exact (List.singleton_inj.mp hresolve).symm

theorem Admits.child (h : schema.Admits path)
    (hreached : path.reached? = some target) {hop : Property}
    (hhop : hop ∈ schema.propertiesOf target) : schema.Admits (path.child hop) :=
  (h.declares.child hreached hhop).admits (by simp [Path.child])

theorem resolveAll_dotted (hplain : schema.HasPlainNames)
    (h : schema.Admits path) (hreached : path.reached? = some target) :
    schema.resolveAll path.root
        ((schema.propertiesOf target).map fun hop => path.dotted ++ "." ++ hop.name) =
      .ok ((schema.propertiesOf target).map path.child) := by
  have heach : ∀ hop ∈ schema.propertiesOf target,
      schema.resolve path.root (path.dotted ++ "." ++ hop.name) = .ok [path.child hop] := by
    intro hop hhop
    rw [← Path.dotted_child h.nonempty]
    exact resolve_dotted hplain (h.child hreached hhop)
  have hall : ((schema.propertiesOf target).map fun hop => path.dotted ++ "." ++ hop.name).mapM
      (schema.resolve path.root) =
        .ok ((schema.propertiesOf target).map fun hop => [path.child hop]) := by
    rw [Result.mapM_eq_ok, List.forall₂_map_left_iff, List.forall₂_map_right_iff,
      List.forall₂_same]
    exact heach
  have hflat : ((schema.propertiesOf target).map fun hop => [path.child hop]).flatten =
      (schema.propertiesOf target).map path.child := by
    rw [← List.flatMap_def, List.map_eq_flatMap]
  rw [resolveAll, hall, ← hflat]
  rfl

/-- Fields that are named after their paths never clash. -/
theorem indexOf_ne_duplicateField (hplain : schema.HasPlainNames)
    (hstandalone : definition.standalone = []) (entity : EntityName) (name : String) :
    schema.indexOf config definition ≠ .error (.duplicateField entity name) := by
  intro herror
  cases hentity : schema.entity? definition.entity with
  | none => simp [indexOf, hentity, bind, Except.bind] at herror
  | some _ =>
    have hroot : (schema.entity? definition.entity).isSome := by simp [hentity]
    obtain ⟨fields, hfields, field, hfield, known, hknown, hname, hdiffers⟩ :=
      exists_clash_of_indexOf hroot herror
    have hnamed : ∀ given ∈ fields, given = .ofPath given.path := by
      intro given hgiven
      rcases (mem_fieldsOf hfields).mp hgiven with ⟨path, _, rfl⟩ | ⟨_, hnone, _⟩
      · rfl
      · simp [hstandalone] at hnone
    have hpaths := admits_of_fieldsOf hroot hfields
    obtain ⟨hfieldRoot, hfieldPath⟩ := hpaths field hfield
    obtain ⟨hknownRoot, hknownPath⟩ := hpaths known hknown
    rw [hnamed field hfield, hnamed known hknown] at hname
    have hsame : known.path = field.path := dotted_injective hplain hknownPath hfieldPath
      (hknownRoot.trans hfieldRoot.symm) hname
    apply hdiffers
    rw [hnamed known hknown, hsame, ← hnamed field hfield]

/-- Resolving the dotted name of a path gives this path back, so different paths of one root have
different names. A star after the name of a reference stands for the names of all properties of its
target, in their order. Fields that are named after their paths are never taken for duplicates. -/
theorem resolve_undoes_dotted (hplain : schema.HasPlainNames) :
    (∀ path, schema.Admits path → schema.resolve path.root path.dotted = .ok [path]) ∧
    (∀ path other, schema.Admits path → schema.Admits other → path.root = other.root →
      path ≠ other → path.dotted ≠ other.dotted) ∧
    (∀ path target, schema.Admits path → path.reached? = some target →
      schema.resolve path.root (path.dotted ++ ".*") = schema.resolveAll path.root
          ((schema.propertiesOf target).map fun hop => path.dotted ++ "." ++ hop.name) ∧
        schema.resolve path.root (path.dotted ++ ".*") =
          .ok ((schema.propertiesOf target).map path.child)) ∧
    ∀ (config : Config) (definition : Definition), definition.standalone = [] →
      ∀ entity name, schema.indexOf config definition ≠ .error (.duplicateField entity name) := by
  refine ⟨fun path => resolve_dotted hplain, fun path other hpath hother hroot hne => ?_,
    fun path target hpath hreached => ?_, fun config definition hstandalone =>
      indexOf_ne_duplicateField hplain hstandalone⟩
  · exact fun hdotted => hne (dotted_injective hplain hpath hother hroot hdotted)
  · have hstar := resolve_dotted_star hplain hpath hreached
    exact ⟨hstar.trans (resolveAll_dotted hplain hpath hreached).symm, hstar⟩

theorem resolve_undoes_dotted_shop :
    Schema.ofEntities Shop.entities = .ok Shop.schema ∧ Shop.schema.HasPlainNames ∧
      Shop.schema.resolve "Order" "buyer.company" =
        .ok [⟨"Order", [Shop.orderBuyer, Shop.customerCompany]⟩] ∧
      Shop.schema.resolve "Order" "buyer.company.*" =
        .ok [⟨"Order", [Shop.orderBuyer, Shop.customerCompany, Shop.companyName]⟩] := by
  have hplain : Shop.schema.HasPlainNames := by decide +kernel
  have hadmits : Shop.schema.Admits ⟨"Order", [Shop.orderBuyer, Shop.customerCompany]⟩ :=
    ⟨by decide, by decide, by decide +kernel⟩
  have hdotted : (Path.mk "Order" [Shop.orderBuyer, Shop.customerCompany]).dotted =
      "buyer.company" := by decide +kernel
  have hall : Shop.schema.propertiesOf "Company" = [Shop.companyName] := by decide +kernel
  obtain ⟨hresolve, _, hstar, _⟩ := resolve_undoes_dotted hplain
  have hone := hresolve _ hadmits
  have hmany := (hstar _ "Company" hadmits rfl).2
  rw [hdotted] at hone hmany
  rw [hall] at hmany
  exact ⟨Shop.ofEntities_entities, hplain, hone, hmany⟩

end Schema

end Reindex
