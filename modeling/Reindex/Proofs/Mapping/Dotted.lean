import Reindex.Proofs.Dependency.Impact

namespace Reindex.Schema

structure Denotes (schema : Schema) (owner : EntityName) (segment : String) (hop : Property) :
    Prop where
  plain : segment ≠ wildcard
  declared : hop ∈ schema.propertiesOf owner
  named : hop.name = segment

/-- From the first type the segments lead through references, taking these hops, to the last. -/
inductive Leads (schema : Schema) :
    EntityName → List String → List Property → EntityName → Prop
  | stay (owner : EntityName) : Leads schema owner [] [] owner
  | step {owner target reached : EntityName} {segment : String} {segments : List String}
      {hop : Property} {hops : List Property} : schema.Denotes owner segment hop →
      hop.range.target? = some target → Leads schema target segments hops reached →
      Leads schema owner (segment :: segments) (hop :: hops) reached

/-- The properties of the type that a last segment selects, in their order. -/
inductive Selects (schema : Schema) (owner : EntityName) : String → List Property → Prop
  | all : Selects schema owner wildcard (schema.propertiesOf owner)
  | one {segment : String} {hop : Property} : schema.Denotes owner segment hop →
      Selects schema owner segment [hop]

/-- The error of a segment that the text cannot be followed through, given what comes after it. -/
inductive Offends (schema : Schema) (dotted : String) (owner : EntityName) :
    String → List String → TrackingError → Prop
  | star {after : List String} : after ≠ [] → Offends schema dotted owner wildcard after
      (.unknownProperty owner (wildcard ++ " (wildcard is only allowed as the last segment)") none)
  | unknown {segment : String} {after : List String} : segment ≠ wildcard →
      (∀ hop ∈ schema.propertiesOf owner, hop.name ≠ segment) →
      Offends schema dotted owner segment after
        (.unknownProperty owner segment
          (Text.EditDistance.nearest? segment ((schema.propertiesOf owner).map Property.name)))
  | scalar {segment : String} {after : List String} {hop : Property} :
      schema.Denotes owner segment hop → hop.range.target? = none → after ≠ [] →
      Offends schema dotted owner segment after (.notAReference hop.owner hop.name dotted)

variable {schema : Schema} {dotted segment : String} {before after : List String}
  {owner target reached : EntityName} {hop : Property} {hops selected : List Property}
  {paths : List Path} {error : TrackingError}

theorem Leads.isSome_reached
    (h : schema.Leads owner before hops reached) (howner : (schema.entity? owner).isSome) :
    (schema.entity? reached).isSome := by
  induction h with
  | stay owner => exact howner
  | step hdenotes htarget _ ih => exact ih (schema.isSome_target hdenotes.declared htarget)

theorem Leads.declaresFrom (h : schema.Leads owner before hops reached) :
    schema.DeclaresFrom owner hops := by
  induction h with
  | stay owner => trivial
  | step hdenotes htarget _ ih =>
    refine ⟨hdenotes.declared, ?_⟩
    rw [htarget]
    exact ih

theorem Leads.reached? (h : schema.Leads owner before hops reached) :
    (Path.mk owner hops).reached? = some reached := by
  induction h with
  | stay owner => rfl
  | step _ htarget _ ih =>
    rw [Path.reached?_cons htarget]
    exact ih

theorem lookup_of_denotes (h : schema.Denotes owner segment hop) :
    schema.lookup owner segment = .ok hop := by
  obtain ⟨entity, hentity, hmem⟩ := mem_propertiesOf.mp h.declared
  have hproperty : entity.property? segment = some hop :=
    (schema.fits hentity).property?_eq_some.mpr ⟨hmem, h.named⟩
  simp only [lookup, hentity, if_neg h.plain, hproperty]

theorem lookup_wildcard (howner : (schema.entity? owner).isSome) :
    schema.lookup owner wildcard = .error (.unknownProperty owner
      (wildcard ++ " (wildcard is only allowed as the last segment)") none) := by
  obtain ⟨entity, hentity⟩ := Option.isSome_iff_exists.mp howner
  simp only [lookup, hentity, if_pos]

theorem lookup_of_unknown (howner : (schema.entity? owner).isSome) (hplain : segment ≠ wildcard)
    (hunknown : ∀ hop ∈ schema.propertiesOf owner, hop.name ≠ segment) :
    schema.lookup owner segment = .error (.unknownProperty owner segment
      (Text.EditDistance.nearest? segment ((schema.propertiesOf owner).map Property.name))) := by
  obtain ⟨entity, hentity⟩ := Option.isSome_iff_exists.mp howner
  have hproperties : schema.propertiesOf owner = entity.properties := by
    simp [propertiesOf, hentity]
  have hproperty : entity.property? segment = none := by
    rw [hproperties] at hunknown
    simpa [Entity.property?] using hunknown
  simp only [lookup, hentity, if_neg hplain, hproperty, hproperties, Entity.propertyNames]

theorem walk_cons_of_ne_nil (hafter : after ≠ []) :
    schema.walk dotted path owner (segment :: after) =
      (schema.lookup owner segment).bind fun hop =>
        match hop.range.target? with
        | some target => schema.walk dotted (path.child hop) target after
        | none => .error (.notAReference hop.owner hop.name dotted) := by
  cases after with
  | nil => exact absurd rfl hafter
  | cons second rest =>
    rw [walk]
    · rfl
    · simp

theorem walk_append (h : schema.Leads owner before hops reached)
    (hafter : after ≠ []) (path : Path) :
    schema.walk dotted path owner (before ++ after) =
      schema.walk dotted (path.extend hops) reached after := by
  induction h generalizing path with
  | stay owner => rw [List.nil_append, Path.extend_nil]
  | @step owner segment hop target segments hops reached hdenotes htarget _ ih =>
    have hrest : segments ++ after ≠ [] := by simp [hafter]
    rw [List.cons_append, walk_cons_of_ne_nil hrest, lookup_of_denotes hdenotes,
      Path.extend_cons, ← ih]
    simp only [Except.bind, htarget]

theorem walk_of_selects (h : schema.Selects owner segment selected)
    (path : Path) :
    schema.walk dotted path owner [segment] = .ok (selected.map path.child) := by
  rw [walk]
  cases h with
  | all => rw [if_pos rfl]
  | one hdenotes =>
    rw [if_neg hdenotes.plain, lookup_of_denotes hdenotes]
    rfl

theorem walk_of_offends (howner : (schema.entity? owner).isSome)
    (h : schema.Offends dotted owner segment after error) (path : Path) :
    schema.walk dotted path owner (segment :: after) = .error error := by
  cases h with
  | star hafter =>
    rw [walk_cons_of_ne_nil hafter, lookup_wildcard howner]
    rfl
  | unknown hplain hunknown =>
    have hlookup := lookup_of_unknown howner hplain hunknown
    cases after with
    | nil =>
      rw [walk, if_neg hplain, hlookup]
      rfl
    | cons second rest =>
      rw [walk_cons_of_ne_nil (List.cons_ne_nil second rest), hlookup]
      rfl
  | scalar hdenotes hscalar hafter =>
    rw [walk_cons_of_ne_nil hafter, lookup_of_denotes hdenotes]
    simp only [Except.bind, hscalar]

theorem star_or_denotes_or_unknown (schema : Schema) (owner : EntityName) (segment : String) :
    segment = wildcard ∨ (∃ hop, schema.Denotes owner segment hop) ∨
      segment ≠ wildcard ∧ ∀ hop ∈ schema.propertiesOf owner, hop.name ≠ segment := by
  by_cases hstar : segment = wildcard
  · exact Or.inl hstar
  · by_cases hdeclared : ∃ hop ∈ schema.propertiesOf owner, hop.name = segment
    · obtain ⟨hop, hhop, hname⟩ := hdeclared
      exact Or.inr (Or.inl ⟨hop, hstar, hhop, hname⟩)
    · push Not at hdeclared
      exact Or.inr (Or.inr ⟨hstar, hdeclared⟩)

/-- Segments lead on until one of them offends, or up to a last one that selects properties. -/
theorem exists_leads (schema : Schema) (dotted : String) (owner : EntityName)
    {segments : List String} (hsegments : segments ≠ []) :
    ∃ before segment after hops reached, segments = before ++ segment :: after ∧
      schema.Leads owner before hops reached ∧
      ((after = [] ∧ ∃ selected, schema.Selects reached segment selected) ∨
        ∃ error, schema.Offends dotted reached segment after error) := by
  induction segments generalizing owner with
  | nil => exact absurd rfl hsegments
  | cons segment after ih =>
    -- only a reference that is not the last segment leads on
    rcases schema.star_or_denotes_or_unknown owner segment with
      rfl | ⟨hop, hdenotes⟩ | ⟨hplain, hunknown⟩
    · refine ⟨[], wildcard, after, [], owner, rfl, .stay owner, ?_⟩
      by_cases hafter : after = []
      · exact Or.inl ⟨hafter, _, .all⟩
      · exact Or.inr ⟨_, .star hafter⟩
    · by_cases hafter : after = []
      · exact ⟨[], segment, after, [], owner, rfl, .stay owner, Or.inl ⟨hafter, _, .one hdenotes⟩⟩
      · cases htarget : hop.range.target? with
        | none =>
          exact ⟨[], segment, after, [], owner, rfl, .stay owner,
            Or.inr ⟨_, .scalar hdenotes htarget hafter⟩⟩
        | some target =>
          obtain ⟨before, last, rest, hops, reached, rfl, hleads, hend⟩ := ih target hafter
          exact ⟨segment :: before, last, rest, hop :: hops, reached, rfl,
            .step hdenotes htarget hleads, hend⟩
    · exact ⟨[], segment, after, [], owner, rfl, .stay owner, Or.inr ⟨_, .unknown hplain hunknown⟩⟩

theorem segments_ne_nil (dotted : String) : segments dotted ≠ [] := by
  rw [segments, ne_eq, List.map_eq_nil_iff]
  exact Text.Segments.split_ne_nil _ _

theorem exists_pieces (dotted : String) : ∃ pieces : List (List Char), pieces ≠ [] ∧
    (∀ piece ∈ pieces, '.' ∉ piece) ∧ Text.Segments.join '.' pieces = dotted.toList ∧
    segments dotted = pieces.map (fun piece => String.ofList (Text.trim piece)) :=
  ⟨Text.Segments.split '.' dotted.toList, Text.Segments.split_ne_nil '.' _,
    fun _ => Text.Segments.notMem_of_mem_split '.', Text.Segments.join_split '.' _, rfl⟩

theorem resolve_of_leads {root : EntityName}
    (hempty : "" ∉ segments dotted) (hsegments : segments dotted = before ++ segment :: after)
    (hleads : schema.Leads root before hops reached) :
    schema.resolve root dotted =
      schema.walk dotted ⟨root, hops⟩ reached (segment :: after) := by
  rw [resolve, if_neg hempty, hsegments,
    walk_append hleads (List.cons_ne_nil segment after)]
  rfl

theorem resolve_of_selects {root : EntityName}
    (hempty : "" ∉ segments dotted) (hsegments : segments dotted = before ++ [segment])
    (hleads : schema.Leads root before hops reached)
    (hselects : schema.Selects reached segment selected) :
    schema.resolve root dotted = .ok (selected.map (Path.mk root hops).child) := by
  rw [resolve_of_leads hempty hsegments hleads, walk_of_selects hselects]

theorem resolve_of_offends {root : EntityName}
    (hroot : (schema.entity? root).isSome) (hempty : "" ∉ segments dotted)
    (hsegments : segments dotted = before ++ segment :: after)
    (hleads : schema.Leads root before hops reached)
    (hoffends : schema.Offends dotted reached segment after error) :
    schema.resolve root dotted = .error error := by
  have hreached := hleads.isSome_reached hroot
  rw [resolve_of_leads hempty hsegments hleads, walk_of_offends hreached hoffends]

theorem exists_resolve {root : EntityName}
    (hroot : (schema.entity? root).isSome) (hempty : "" ∉ segments dotted) :
    (∃ before last hops reached selected, segments dotted = before ++ [last] ∧
      schema.Leads root before hops reached ∧ schema.Selects reached last selected ∧
      schema.resolve root dotted = .ok (selected.map (Path.mk root hops).child)) ∨
    ∃ before segment after hops reached error, segments dotted = before ++ segment :: after ∧
      schema.Leads root before hops reached ∧ schema.Offends dotted reached segment after error ∧
      schema.resolve root dotted = .error error := by
  obtain ⟨before, segment, after, hops, reached, hsegments, hleads, hend⟩ :=
    schema.exists_leads dotted root (segments_ne_nil dotted)
  rcases hend with ⟨rfl, selected, hselects⟩ | ⟨error, hoffends⟩
  · have hresolve := resolve_of_selects hempty hsegments hleads hselects
    exact Or.inl ⟨before, segment, hops, reached, selected, hsegments, hleads, hselects, hresolve⟩
  · have hresolve := resolve_of_offends hroot hempty hsegments hleads hoffends
    exact Or.inr
      ⟨before, segment, after, hops, reached, error, hsegments, hleads, hoffends, hresolve⟩

theorem Offends.ne_unknownEntity (h : schema.Offends dotted owner segment after error)
    (entity : EntityName) : error ≠ .unknownEntity entity := by
  cases h <;> simp

theorem resolve_eq_ok {root : EntityName}
    (hroot : (schema.entity? root).isSome) :
    schema.resolve root dotted = .ok paths ↔
      "" ∉ segments dotted ∧ ∃ before last hops reached selected,
        segments dotted = before ++ [last] ∧ schema.Leads root before hops reached ∧
        schema.Selects reached last selected ∧ paths = selected.map (Path.mk root hops).child := by
  constructor
  · intro h
    by_cases hempty : "" ∈ segments dotted
    · rw [resolve, if_pos hempty] at h
      cases h
    · rcases exists_resolve hroot hempty with
        ⟨before, last, hops, reached, selected, hsegments, hleads, hselects, hresolve⟩ |
        ⟨_, _, _, _, _, _, _, _, _, hresolve⟩
      · rw [hresolve, Except.ok.injEq] at h
        exact ⟨hempty, before, last, hops, reached, selected, hsegments, hleads, hselects, h.symm⟩
      · rw [hresolve] at h
        cases h
  · rintro ⟨hempty, _, _, _, _, _, hsegments, hleads, hselects, rfl⟩
    exact resolve_of_selects hempty hsegments hleads hselects

theorem resolve_eq_error {root : EntityName}
    (hroot : (schema.entity? root).isSome) :
    schema.resolve root dotted = .error error ↔
      ("" ∈ segments dotted ∧ error = .emptyPath root) ∨
      "" ∉ segments dotted ∧ ∃ before segment after hops reached,
        segments dotted = before ++ segment :: after ∧ schema.Leads root before hops reached ∧
        schema.Offends dotted reached segment after error := by
  constructor
  · intro h
    by_cases hempty : "" ∈ segments dotted
    · rw [resolve, if_pos hempty, Except.error.injEq] at h
      exact Or.inl ⟨hempty, h.symm⟩
    · rcases exists_resolve hroot hempty with
        ⟨_, _, _, _, _, _, _, _, hresolve⟩ |
        ⟨before, segment, after, hops, reached, _, hsegments, hleads, hoffends, hresolve⟩
      · rw [hresolve] at h
        cases h
      · rw [hresolve, Except.error.injEq] at h
        subst h
        exact Or.inr ⟨hempty, before, segment, after, hops, reached, hsegments, hleads, hoffends⟩
  · rintro (⟨hempty, rfl⟩ | ⟨hempty, _, _, _, _, _, hsegments, hleads, hoffends⟩)
    · rw [resolve, if_pos hempty]
    · exact resolve_of_offends hroot hempty hsegments hleads hoffends

/-- A dotted text resolves if and only if none of the segments between its dots is empty, all but
the last name references, each on the type that those before it reach, and the last one is a star
or names a property. Its paths then end on the selected properties, in their order, and each of them
chains. Otherwise an empty segment decides the error, and without one the first segment that cannot
be followed. Only references are ever followed, to types that own what they declare, so no type is
found missing. -/
theorem resolve_exact {root : EntityName} (hroot : (schema.entity? root).isSome) (dotted : String) :
    (∃ pieces : List (List Char), pieces ≠ [] ∧ (∀ piece ∈ pieces, '.' ∉ piece) ∧
      Text.Segments.join '.' pieces = dotted.toList ∧
      segments dotted = pieces.map (fun piece => String.ofList (Text.trim piece))) ∧
    (∀ paths, schema.resolve root dotted = .ok paths ↔
      "" ∉ segments dotted ∧ ∃ before last hops reached selected,
        segments dotted = before ++ [last] ∧ schema.Leads root before hops reached ∧
        schema.Selects reached last selected ∧ paths = selected.map (Path.mk root hops).child) ∧
    (∀ paths, schema.resolve root dotted = .ok paths → ∀ path ∈ paths,
      path.root = root ∧ Path.ofHops? path.root path.hops = some path) ∧
    (∀ error, schema.resolve root dotted = .error error ↔
      ("" ∈ segments dotted ∧ error = .emptyPath root) ∨
      "" ∉ segments dotted ∧ ∃ before segment after hops reached,
        segments dotted = before ++ segment :: after ∧ schema.Leads root before hops reached ∧
        schema.Offends dotted reached segment after error) ∧
    (∀ entity, schema.resolve root dotted ≠ .error (.unknownEntity entity)) ∧
    (∀ before hops reached, schema.Leads root before hops reached →
      (Path.mk root hops).IsChained ∧ (Path.mk root hops).reached? = some reached ∧
      ∀ hop ∈ schema.propertiesOf reached, hop.owner = reached) := by
  refine ⟨exists_pieces dotted, fun paths => resolve_eq_ok hroot,
    fun paths h path hpath => ?_, fun error => resolve_eq_error hroot,
    fun entity h => ?_, fun before hops reached hleads => ?_⟩
  · obtain ⟨hpathRoot, hdeclares⟩ := declares_of_resolve h path hpath
    have hchained : Path.chainedFrom path.root path.hops = true :=
      DeclaresFrom.chainedFrom hdeclares
    exact ⟨hpathRoot, if_pos hchained⟩
  · rcases (resolve_eq_error hroot).mp h with
      ⟨_, hunknown⟩ | ⟨_, _, _, _, _, _, _, _, hoffends⟩
    · cases hunknown
    · exact hoffends.ne_unknownEntity entity rfl
  · exact ⟨hleads.declaresFrom.chainedFrom, hleads.reached?, fun hop => schema.owner_eq⟩

theorem resolve_exact_shop :
    Schema.ofEntities Shop.entities = .ok Shop.schema ∧
      (Shop.schema.entity? "Order").isSome ∧
      Shop.schema.resolve "Order" " buyer . *" =
        .ok [⟨"Order", [Shop.orderBuyer, Shop.customerName]⟩,
          ⟨"Order", [Shop.orderBuyer, Shop.customerCompany]⟩,
          ⟨"Order", [Shop.orderBuyer, Shop.customerReferrers]⟩] ∧
      Shop.schema.resolve "Order" "buyer.name.first" =
        .error (.notAReference "Customer" "name" "buyer.name.first") := by
  have hroot : (Shop.schema.entity? "Order").isSome := by decide +kernel
  have hbuyer : Shop.schema.Denotes "Order" "buyer" Shop.orderBuyer :=
    ⟨by decide, by decide +kernel, rfl⟩
  have hname : Shop.schema.Denotes "Customer" "name" Shop.customerName :=
    ⟨by decide, by decide +kernel, rfl⟩
  have hleads : Shop.schema.Leads "Order" ["buyer"] [Shop.orderBuyer] "Customer" :=
    .step hbuyer rfl (.stay "Customer")
  have hstar : segments " buyer . *" = ["buyer"] ++ [wildcard] := by decide +kernel
  have hfirst : segments "buyer.name.first" = ["buyer"] ++ "name" :: ["first"] := by decide +kernel
  have hall : Shop.schema.propertiesOf "Customer" =
      [Shop.customerName, Shop.customerCompany, Shop.customerReferrers] := by decide +kernel
  refine ⟨Shop.ofEntities_entities, hroot, ?_, ?_⟩
  · apply ((resolve_exact hroot _).2.1 _).mpr
    refine ⟨by rw [hstar]; decide, _, _, _, _, _, hstar, hleads, .all, ?_⟩
    rw [hall]
    rfl
  · apply ((resolve_exact hroot _).2.2.2.1 _).mpr
    refine Or.inr ⟨by rw [hfirst]; decide, _, _, _, _, _, hfirst, hleads, ?_⟩
    exact .scalar hname rfl (List.cons_ne_nil "first" [])

end Reindex.Schema
