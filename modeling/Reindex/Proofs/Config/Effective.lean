import Reindex.Proofs.Table
import Reindex.Settings

namespace Reindex

namespace Settings

inductive Place where
  | common (key : String)
  | explicit (entity : EntityName) (key : String)
  deriving DecidableEq

namespace Place

def concerns (entity : EntityName) : Place → Bool
  | common _ => true
  | explicit owner _ => owner == entity

end Place

def get? (settings : Settings) : Place → Option Json.Normal
  | .common key => settings.common[key]?
  | .explicit entity key => settings.entities[entity]?.bind fun map => map[key]?

end Settings

namespace SettingsContext

open Settings (Place)

variable {start : Place → Option Json.Normal} {context other : SettingsContext}
  {given before after later : List (Place × Json.Normal)}
  {entity : EntityName} {key : String} {place : Place} {value : Json.Normal}

def set (context : SettingsContext) : Place → Json.Normal → SettingsContext
  | .common key, value => context.setCommon key value
  | .explicit entity key, value => context.setExplicit entity key value

def setAll (context : SettingsContext) (given : List (Place × Json.Normal)) : SettingsContext :=
  given.foldl (fun context (place, value) => context.set place value) context

def get? (context : SettingsContext) : Place → Option Json.Normal
  | .common key => context.common[key]?
  | .explicit entity key => (context.explicit? entity).bind fun map => map[key]?

/-- The value that a place was given last. Where none was given, that at the start counts. -/
def IsLatest (start : Place → Option Json.Normal) (given : List (Place × Json.Normal))
    (place : Place) (value : Json.Normal) : Prop :=
  (∃ before after, given = before ++ (place, value) :: after ∧
    ∀ each ∈ after, each.1 ≠ place) ∨
  (∀ each ∈ given, each.1 ≠ place) ∧ start place = some value

/-- The entity type finds the same settings in both: those of all indexes and its own. -/
structure SameFor (entity : EntityName) (context other : SettingsContext) : Prop where
  common : context.common = other.common
  explicit : context.explicit? entity = other.explicit? entity

@[simp]
theorem setAll_nil (context : SettingsContext) : context.setAll [] = context := rfl

@[simp]
theorem setAll_cons (context : SettingsContext) (place : Place) (value : Json.Normal)
    (given : List (Place × Json.Normal)) :
    context.setAll ((place, value) :: given) = (context.set place value).setAll given := rfl

theorem eq_of_sameFor (h : ∀ entity, SameFor entity context other) : context = other := by
  obtain ⟨common, explicit⟩ := context
  obtain ⟨common', explicit'⟩ := other
  obtain rfl : common = common' := (h "").common
  obtain rfl : explicit = explicit' := Std.ExtTreeMap.ext_getElem? fun entity => (h entity).explicit
  rfl

@[simp]
theorem explicit?_setCommon (context : SettingsContext) (key : String) (value : Json.Normal)
    (entity : EntityName) : (context.setCommon key value).explicit? entity =
      context.explicit? entity := rfl

@[simp]
theorem common_setExplicit (context : SettingsContext) (entity : EntityName) (key : String)
    (value : Json.Normal) : (context.setExplicit entity key value).common = context.common := rfl

theorem explicit?_setExplicit (context : SettingsContext) (entity other : EntityName) (key : String)
    (value : Json.Normal) : (context.setExplicit entity key value).explicit? other =
      if entity = other then some (((context.explicit? entity).getD ∅).insert key value)
      else context.explicit? other :=
  Table.getElem?_insert context.explicit entity other _

theorem get?_set (context : SettingsContext) (place other : Place) (value : Json.Normal) :
    (context.set place value).get? other =
      if place = other then some value else context.get? other := by
  cases place with
  | common key =>
    cases other with
    | common second => simp [set, get?, setCommon, Table.getElem?_insert]
    | explicit entity second => simp [set, get?]
  | explicit entity key =>
    cases other with
    | common second => simp [set, get?]
    | explicit owner second =>
      simp only [set, get?, explicit?_setExplicit]
      by_cases howner : entity = owner
      · subst howner
        cases hmap : context.explicit? entity <;> simp [Table.getElem?_insert]
      · simp [howner]

theorem setExplicit_comm_of_key_ne {name : String} (hkey : key ≠ name) (context : SettingsContext)
    (entity : EntityName) (x y : Json.Normal) :
    (context.setExplicit entity key x).setExplicit entity name y =
      (context.setExplicit entity name y).setExplicit entity key x := by
  refine eq_of_sameFor fun other => ⟨rfl, ?_⟩
  simp only [explicit?_setExplicit]
  by_cases hother : entity = other <;> simp [hother, Table.insert_comm hkey]

theorem setExplicit_comm_of_entity_ne {owner : EntityName} (howner : entity ≠ owner)
    (context : SettingsContext) (key name : String) (x y : Json.Normal) :
    (context.setExplicit entity key x).setExplicit owner name y =
      (context.setExplicit owner name y).setExplicit entity key x := by
  refine eq_of_sameFor fun other => ⟨rfl, ?_⟩
  simp only [explicit?_setExplicit, if_neg howner, if_neg (Ne.symm howner)]
  by_cases hentity : entity = other
  · have hother : owner ≠ other := fun h => howner (hentity.trans h.symm)
    simp [hentity, hother]
  · simp [hentity]

theorem set_comm {second : Place} (hne : place ≠ second) (context : SettingsContext)
    (x y : Json.Normal) :
    (context.set place x).set second y = (context.set second y).set place x := by
  cases place with
  | common key =>
    cases second with
    | common name =>
      have hkey : key ≠ name := fun h => hne (h ▸ rfl)
      simp only [set, setCommon, Table.insert_comm hkey]
    | explicit owner name => rfl
  | explicit entity key =>
    cases second with
    | common name => rfl
    | explicit owner name =>
      by_cases howner : entity = owner
      · subst howner
        have hkey : key ≠ name := fun h => hne (h ▸ rfl)
        exact setExplicit_comm_of_key_ne hkey context entity x y
      · exact setExplicit_comm_of_entity_ne howner context key name x y

theorem get?_ofConfig (settings : Settings) : (ofConfig settings).get? = settings.get? := by
  have hexplicit : (ofConfig settings).explicit = settings.entities := Table.ofList_toList _
  funext place
  cases place with
  | common key => rfl
  | explicit entity key => rw [get?, explicit?, hexplicit, Settings.get?]

theorem getElem?_effective (context : SettingsContext) (entity : EntityName) (key : String) :
    (context.effective entity)[key]? =
      (context.get? (.explicit entity key)).or (context.get? (.common key)) := by
  rw [effective, Table.getElem?_insertMany_toList]
  cases hmap : context.explicit? entity <;> simp [get?, hmap]

theorem isLatest_cons (first : Place) (x : Json.Normal) :
    IsLatest context.get? ((first, x) :: given) place value ↔
      IsLatest (context.set first x).get? given place value := by
  constructor
  · rintro (⟨before, after, hgiven, hafter⟩ | ⟨hnever, hvalue⟩)
    · cases before with
      | nil =>
        simp only [List.nil_append, List.cons.injEq, Prod.mk.injEq] at hgiven
        obtain ⟨⟨rfl, rfl⟩, rfl⟩ := hgiven
        exact Or.inr ⟨hafter, by rw [get?_set, if_pos rfl]⟩
      | cons each before =>
        rw [List.cons_append, List.cons.injEq] at hgiven
        exact Or.inl ⟨before, after, hgiven.2, hafter⟩
    · rw [List.forall_mem_cons] at hnever
      exact Or.inr ⟨hnever.2, by rw [get?_set, if_neg hnever.1, hvalue]⟩
  · rintro (⟨before, after, rfl, hafter⟩ | ⟨hnever, hvalue⟩)
    · exact Or.inl ⟨(first, x) :: before, after, rfl, hafter⟩
    · rw [get?_set] at hvalue
      by_cases hfirst : first = place
      · rw [if_pos hfirst, Option.some_inj] at hvalue
        exact Or.inl ⟨[], given, by rw [hfirst, hvalue, List.nil_append], hnever⟩
      · rw [if_neg hfirst] at hvalue
        exact Or.inr ⟨List.forall_mem_cons.mpr ⟨hfirst, hnever⟩, hvalue⟩

theorem get?_setAll : (context.setAll given).get? place = some value ↔
    IsLatest context.get? given place value := by
  induction given generalizing context with
  | nil => simp [IsLatest]
  | cons each given ih =>
    obtain ⟨first, x⟩ := each
    rw [setAll_cons, ih, isLatest_cons]

theorem IsLatest.append (h : IsLatest start given place value)
    (hlater : ∀ each ∈ later, each.1 ≠ place) :
    IsLatest start (given ++ later) place value := by
  rcases h with ⟨before, after, rfl, hafter⟩ | ⟨hnever, hvalue⟩
  · refine Or.inl ⟨before, after ++ later, by simp, fun each heach => ?_⟩
    exact (List.mem_append.mp heach).elim (hafter each) (hlater each)
  · refine Or.inr ⟨fun each heach => ?_, hvalue⟩
    exact (List.mem_append.mp heach).elim (hnever each) (hlater each)

theorem getElem?_effective_setAll : ((context.setAll given).effective entity)[key]? = some value ↔
    IsLatest context.get? given (.explicit entity key) value ∨
    (∀ own, ¬IsLatest context.get? given (.explicit entity key) own) ∧
      IsLatest context.get? given (.common key) value := by
  rw [getElem?_effective, Option.or_eq_some_iff, get?_setAll, get?_setAll,
    Option.eq_none_iff_forall_ne_some]
  simp only [ne_eq, get?_setAll]

theorem setAll_append_cons (h : ∀ each ∈ before, each.1 ≠ place) :
    context.setAll (before ++ (place, value) :: after) =
      (context.set place value).setAll (before ++ after) := by
  induction before generalizing context with
  | nil => rfl
  | cons each before ih =>
    obtain ⟨first, x⟩ := each
    rw [List.forall_mem_cons] at h
    rw [List.cons_append, List.cons_append, setAll_cons, setAll_cons, ih h.2, set_comm h.1]

/-- Only the order in which the values for one place are given matters. -/
theorem setAll_congr {rearranged : List (Place × Json.Normal)}
    (h : ∀ place, given.filter (·.1 = place) = rearranged.filter (·.1 = place)) :
    context.setAll given = context.setAll rearranged := by
  induction given generalizing context rearranged with
  | nil =>
    cases rearranged with
    | nil => rfl
    | cons each rearranged => simpa using h each.1
  | cons each given ih =>
    obtain ⟨first, value⟩ := each
    have hfirst := (h first).symm
    rw [List.filter_cons_of_pos (by simp), List.filter_eq_cons_iff] at hfirst
    obtain ⟨before, after, rfl, hbefore, -, hafter⟩ := hfirst
    -- what stands before the first value for this place in the other list is for other places
    have hothers : ∀ each ∈ before, each.1 ≠ first := by simpa using hbefore
    rw [setAll_cons, setAll_append_cons hothers]
    refine ih fun place => ?_
    by_cases hplace : first = place
    · subst hplace
      have hnone : before.filter (·.1 = first) = [] := by simpa using hothers
      rw [List.filter_append, hnone, hafter, List.nil_append]
    · simpa [List.filter_cons, hplace] using h place

namespace SameFor

theorem refl (entity : EntityName) (context : SettingsContext) : SameFor entity context context :=
  ⟨rfl, rfl⟩

theorem effective_eq (h : SameFor entity context other) :
    context.effective entity = other.effective entity := by
  rw [effective, effective, h.common, h.explicit]

theorem set (h : SameFor entity context other) (place : Place) (value : Json.Normal) :
    SameFor entity (context.set place value) (other.set place value) := by
  cases place with
  | common key => exact ⟨congrArg (·.insert key value) h.common, h.explicit⟩
  | explicit owner key =>
    refine ⟨h.common, ?_⟩
    simp only [SettingsContext.set, explicit?_setExplicit]
    by_cases howner : owner = entity
    · subst howner
      rw [if_pos rfl, if_pos rfl, h.explicit]
    · rw [if_neg howner, if_neg howner, h.explicit]

theorem set_left (h : SameFor entity context other) (hplace : place.concerns entity = false)
    (value : Json.Normal) : SameFor entity (context.set place value) other := by
  cases place with
  | common key => cases hplace
  | explicit owner key =>
    have howner : owner ≠ entity := by simpa [Place.concerns] using hplace
    refine ⟨h.common, ?_⟩
    rw [SettingsContext.set, explicit?_setExplicit, if_neg howner, h.explicit]

theorem setAll (h : SameFor entity context other) (given : List (Place × Json.Normal)) :
    SameFor entity (context.setAll given)
      (other.setAll (given.filter fun each => each.1.concerns entity)) := by
  induction given generalizing context other with
  | nil => exact h
  | cons each given ih =>
    obtain ⟨place, value⟩ := each
    cases hplace : place.concerns entity with
    | true =>
      rw [List.filter_cons_of_pos (by simp [hplace]), setAll_cons, setAll_cons]
      exact ih (h.set place value)
    | false =>
      rw [List.filter_cons_of_neg (by simp [hplace]), setAll_cons]
      exact ih (h.set_left hplace value)

end SameFor

/-- A key is effective for an entity type with the value that it was given last for that type, by
the configuration or later, or else with the one that it was given last for all. Values for
different places may be given in either order, so two runs that give each place the same values in
the same order end alike. What is given to other entity types does not matter, and an explicit value
lasts until another one takes its place. -/
theorem effective_exact :
    (∀ (settings : Settings) given entity key value,
      (((ofConfig settings).setAll given).effective entity)[key]? = some value ↔
        IsLatest settings.get? given (.explicit entity key) value ∨
        (∀ own, ¬IsLatest settings.get? given (.explicit entity key) own) ∧
          IsLatest settings.get? given (.common key) value) ∧
    (∀ (context : SettingsContext) (place second : Place) x y, place ≠ second →
      (context.set place x).set second y = (context.set second y).set place x) ∧
    (∀ (context : SettingsContext) (given rearranged : List (Place × Json.Normal)),
      (∀ place, given.filter (·.1 = place) = rearranged.filter (·.1 = place)) →
      context.setAll given = context.setAll rearranged) ∧
    (∀ entity (context other : SettingsContext) (given second : List (Place × Json.Normal)),
      SameFor entity context other →
      given.filter (·.1.concerns entity) = second.filter (·.1.concerns entity) →
      (context.setAll given).effective entity = (other.setAll second).effective entity) ∧
    ∀ (settings : Settings) given later entity key value,
      IsLatest settings.get? given (.explicit entity key) value →
      (∀ each ∈ later, each.1 ≠ .explicit entity key) →
      (((ofConfig settings).setAll (given ++ later)).effective entity)[key]? = some value := by
  refine ⟨fun settings given entity key value => ?_, fun context _ _ x y hne =>
    set_comm hne context x y, fun _ _ _ => setAll_congr, ?_, ?_⟩
  · rw [getElem?_effective_setAll, get?_ofConfig]
  · intro entity context other given second hsame hgiven
    have hfirst := (hsame.setAll given).effective_eq
    have hsecond := ((SameFor.refl entity other).setAll second).effective_eq
    rw [hfirst, hsecond, hgiven]
  · intro settings given later entity key value h hlater
    rw [getElem?_effective_setAll, get?_ofConfig]
    exact Or.inl (h.append hlater)

end SettingsContext

namespace Shop

def shards (count : Nat) : Json.Normal := .ofJson (.nat count)

def sharded : Settings where
  common := (∅ : SettingMap).insert "shards" (shards 1)
  entities := (∅ : Std.ExtTreeMap String SettingMap).insert "Order"
    ((∅ : SettingMap).insert "shards" (shards 3))

def sharding : SettingsContext := .ofConfig sharded

def resharded : List (Settings.Place × Json.Normal) :=
  [(.common "shards", shards 2), (.explicit "Customer" "shards", shards 5)]

end Shop

/-- Orders keep their shards, whatever the order of the later values, and those of customers do not
show there. -/
theorem SettingsContext.effective_exact_shop :
    ((Shop.sharding.setAll Shop.resharded).effective "Order")["shards"]? = some (Shop.shards 3) ∧
    ((Shop.sharding.setAll Shop.resharded).effective "Invoice")["shards"]? = some (Shop.shards 2) ∧
    (Shop.sharding.set (.common "shards") (Shop.shards 2)).set (.explicit "Order" "shards")
        (Shop.shards 4) =
      (Shop.sharding.set (.explicit "Order" "shards") (Shop.shards 4)).set (.common "shards")
        (Shop.shards 2) ∧
    Shop.sharding.setAll Shop.resharded = Shop.sharding.setAll Shop.resharded.reverse ∧
    (Shop.sharding.setAll Shop.resharded).effective "Order" =
      (Shop.sharding.setAll [(.common "shards", Shop.shards 2)]).effective "Order" := by
  obtain ⟨hexact, hcomm, hcongr, hsame, hlasts⟩ := effective_exact
  have hthree : IsLatest Shop.sharded.get? [] (.explicit "Order" "shards") (Shop.shards 3) :=
    Or.inr ⟨by simp, by decide +kernel⟩
  have htwo : IsLatest Shop.sharded.get? Shop.resharded (.common "shards") (Shop.shards 2) :=
    Or.inl ⟨[], _, rfl, by decide⟩
  have hinvoice : (Shop.sharding.setAll Shop.resharded).get? (.explicit "Invoice" "shards") =
      none := by decide +kernel
  refine ⟨hlasts _ [] Shop.resharded "Order" "shards" _ hthree (by decide), ?_,
    hcomm _ _ _ _ _ (by decide), hcongr _ _ _ fun place => ?_,
    hsame "Order" _ _ _ _ (.refl "Order" Shop.sharding) (by decide)⟩
  · refine (hexact _ _ _ _ _).mpr (Or.inr ⟨fun own hown => ?_, htwo⟩)
    rw [← get?_ofConfig] at hown
    have hvalue : (Shop.sharding.setAll Shop.resharded).get? (.explicit "Invoice" "shards") =
        some own := get?_setAll.mpr hown
    simp [hinvoice] at hvalue
  · cases place with
    | common key => by_cases hkey : "shards" = key <;> simp [Shop.resharded, hkey]
    | explicit entity key => simp [Shop.resharded, List.filter_cons]

end Reindex
