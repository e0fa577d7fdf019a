import Reindex.Proofs.Mapping.Dotted
import Reindex.Proofs.Text.Edits

namespace Reindex

theorem TrackingError.suggestion_some_ne (name : String) :
    suggestion (some name) ≠ suggestion none := by
  intro h
  have hfirst := congrArg (fun text => text.toList.head?) h
  simp [suggestion] at hfirst

namespace Schema

/-- The hint names the first of the nearest properties that the type declares, and it only says that
there are none if the type declares none. -/
structure IsTruthful (schema : Schema) (owner : EntityName) (reported : String)
    (hint : Option String) : Prop where
  nearest : schema.propertiesOf owner ≠ [] → ∃ before best after,
    (schema.propertiesOf owner).map Property.name = before ++ best :: after ∧
      TrackingError.suggestion hint = "Did you mean '" ++ best ++ "'?" ∧
      Text.EditDistance.IsNearest reported before best after
  silent : TrackingError.suggestion hint = "No properties declared on this entity" →
    schema.propertiesOf owner = []

variable {schema : Schema} {dotted reported segment : String} {after : List String}
  {owner : EntityName} {hint : Option String}

theorem isTruthful_none : schema.IsTruthful owner reported none ↔ schema.propertiesOf owner = [] :=
  ⟨fun h => h.silent rfl, fun h => ⟨fun hsome => absurd h hsome, fun _ => h⟩⟩

theorem isTruthful_nearest? (schema : Schema) (owner : EntityName) (segment : String) :
    schema.IsTruthful owner segment
      (Text.EditDistance.nearest? segment ((schema.propertiesOf owner).map Property.name)) where
  nearest := by
    intro hsome
    have hnames : (schema.propertiesOf owner).map Property.name ≠ [] := by simpa using hsome
    obtain ⟨before, best, after, hsplit, hbest, hfirst⟩ :=
      Text.EditDistance.exists_isNearest segment hnames
    refine ⟨before, best, after, hsplit, ?_, hfirst⟩
    rw [hbest]
    rfl
  silent := by
    intro hnone
    cases hbest : Text.EditDistance.nearest? segment
        ((schema.propertiesOf owner).map Property.name) with
    | none => simpa using Text.EditDistance.nearest?_eq_none_iff.mp hbest
    | some best =>
      rw [hbest] at hnone
      exact absurd hnone (TrackingError.suggestion_some_ne best)

/-- Of the two ways in which a segment can be unknown, only the star goes without a hint. -/
theorem Offends.isTruthful_iff
    (h : schema.Offends dotted owner segment after (.unknownProperty owner reported hint)) :
    (segment = wildcard ∧ after ≠ [] ∧ hint = none ∧
        reported = wildcard ++ " (wildcard is only allowed as the last segment)" ∨
      segment ≠ wildcard ∧ reported = segment ∧
        ∀ hop ∈ schema.propertiesOf owner, hop.name ≠ segment) ∧
    (schema.IsTruthful owner reported hint ↔
      segment = wildcard → schema.propertiesOf owner = []) := by
  cases h with
  | star hafter =>
    refine ⟨Or.inl ⟨rfl, hafter, rfl, rfl⟩, ?_⟩
    rw [isTruthful_none]
    exact ⟨fun h _ => h, fun h => h rfl⟩
  | unknown hplain hunknown =>
    refine ⟨Or.inr ⟨hplain, rfl, hunknown⟩, fun _ hstar => absurd hstar hplain, fun _ => ?_⟩
    exact isTruthful_nearest? schema owner reported

/-- A property is reported as unknown on the type that the segments before it lead to: as a name
that the type does not declare, or as a star before the last segment. The hint is truthful for every
such name, and for a star if and only if the type declares no properties. -/
theorem hint_exact {root : EntityName} (hroot : (schema.entity? root).isSome) (dotted : String)
    (h : schema.resolve root dotted = .error (.unknownProperty owner reported hint)) :
    (schema.entity? owner).isSome ∧ ∃ before segment after hops,
      segments dotted = before ++ segment :: after ∧ schema.Leads root before hops owner ∧
      (segment = wildcard ∧ after ≠ [] ∧ hint = none ∧
          reported = wildcard ++ " (wildcard is only allowed as the last segment)" ∨
        segment ≠ wildcard ∧ reported = segment ∧
          ∀ hop ∈ schema.propertiesOf owner, hop.name ≠ segment) ∧
      (schema.IsTruthful owner reported hint ↔
        segment = wildcard → schema.propertiesOf owner = []) := by
  rcases (resolve_eq_error hroot).mp h with
    ⟨_, hunknown⟩ | ⟨_, before, segment, after, hops, reached, hsegments, hleads, hoffends⟩
  · cases hunknown
  · have howner : reached = owner := by cases hoffends <;> rfl
    subst howner
    exact ⟨hleads.isSome_reached hroot, before, segment, after, hops, hsegments, hleads,
      hoffends.isTruthful_iff⟩

theorem hint_exact_shop :
    Schema.ofEntities Shop.entities = .ok Shop.schema ∧
      (Shop.schema.entity? "Order").isSome ∧
      Shop.schema.resolve "Order" "buyer.nmae" =
        .error (.unknownProperty "Customer" "nmae" (some "name")) ∧
      Shop.schema.IsTruthful "Customer" "nmae" (some "name") := by
  have hroot : (Shop.schema.entity? "Order").isSome := by decide +kernel
  have hresolve : Shop.schema.resolve "Order" "buyer.nmae" =
      .error (.unknownProperty "Customer" "nmae" (some "name")) := by decide +kernel
  obtain ⟨_, _, _, _, _, _, _, ⟨_, _, hnone, _⟩ | ⟨hplain, _, _⟩, htruthful⟩ :=
    hint_exact hroot "buyer.nmae" hresolve
  · cases hnone
  · exact ⟨Shop.ofEntities_entities, hroot, hresolve, htruthful.mpr fun h => absurd h hplain⟩

/-- Orders have properties, but the hint for a star before a name says that they have none. -/
theorem star_hint_shop :
    Schema.ofEntities Shop.entities = .ok Shop.schema ∧
      (Shop.schema.entity? "Order").isSome ∧
      Shop.schema.resolve "Order" "*.name" = .error (.unknownProperty "Order"
        "* (wildcard is only allowed as the last segment)" none) ∧
      Shop.schema.propertiesOf "Order" = [Shop.orderNumber, Shop.orderBuyer] ∧
      TrackingError.suggestion none = "No properties declared on this entity" ∧
      ¬Shop.schema.IsTruthful "Order" "* (wildcard is only allowed as the last segment)" none := by
  have hroot : (Shop.schema.entity? "Order").isSome := by decide +kernel
  have hresolve : Shop.schema.resolve "Order" "*.name" = .error (.unknownProperty "Order"
      "* (wildcard is only allowed as the last segment)" none) := by decide +kernel
  have hall : Shop.schema.propertiesOf "Order" = [Shop.orderNumber, Shop.orderBuyer] := by
    decide +kernel
  refine ⟨Shop.ofEntities_entities, hroot, hresolve, hall, rfl, fun h => ?_⟩
  rw [isTruthful_none, hall] at h
  cases h

end Schema

end Reindex
