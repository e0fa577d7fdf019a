import Mathlib.Data.Nat.Find
import Reindex.Proofs.Dependency.Impact
import Reindex.Proofs.Dependency.PathFault

namespace Reindex

namespace Compilation

variable {schema : Schema} {config : Config} {index : Index} {error : TrackingError}

def Sound (schema : Schema) (config : Config) (index : Index) : Prop :=
  ∀ field ∈ index.fieldList, field.standalone = false →
    ∀ path ∈ schema.expand field.path, path.Sound config

theorem not_sound_iff :
    ¬Sound schema config index ↔ ∃ field ∈ index.fieldList, field.standalone = false ∧
      ∃ path ∈ schema.expand field.path, config.pathLimit.toNat < path.length ∨
        ¬(path.hops.map Property.crossing).Nodup := by
  have hpath : ∀ path : Path, ¬path.Sound config ↔ config.pathLimit.toNat < path.length ∨
      ¬(path.hops.map Property.crossing).Nodup := by
    intro path
    rw [← Nat.not_le, ← not_and_or]
    exact not_congr ⟨fun h => ⟨h.short, h.simple⟩, fun h => ⟨h.1, h.2⟩⟩
  unfold Sound
  push Not
  simp only [hpath]

/-- An error that an index is refused with. Its fields are checked in the order of their names, and
the paths of a field in the order of the identity they are expanded by. Whether the index clashes
with an earlier one is checked last. -/
inductive Refuses (schema : Schema) (config : Config) (earlier : List Index) (index : Index) :
    TrackingError → Prop
  | path {field : Field} {before after : List Path} {path : Path} {error : TrackingError}
      (hfield : field ∈ index.fieldList) (htracked : field.standalone = false)
      (hfields : ∀ other ∈ index.fieldList, other.standalone = false →
        compare other.name field.name = .lt → ∀ path ∈ schema.expand other.path, path.Sound config)
      (hpaths : schema.expand field.path = before ++ path :: after)
      (hbefore : ∀ path ∈ before, path.Sound config) (hfault : PathFault config path error) :
      Refuses schema config earlier index error
  | duplicate (hsound : Sound schema config index) (hpolicy : config.duplicates = .reject)
      (hclash : ∃ other ∈ earlier, other.Clashes index) :
      Refuses schema config earlier index (.duplicateDefinition index.entity index.name)

def RefusesAt (schema : Schema) (config : Config) (indexes : List Index) (i : Nat)
    (error : TrackingError) : Prop :=
  ∃ index, indexes[i]? = some index ∧ Refuses schema config (indexes.take i) index error

def structuralFault? (schema : Schema) (config : Config) (index : Index) : Option TrackingError :=
  (effectivePaths schema index).findSome? (pathFault? config)

theorem mapM_checked (paths : List Path) :
    paths.mapM (checked config) =
      match paths.findSome? (pathFault? config) with
      | some error => .error error
      | none => .ok paths := by
  induction paths with
  | nil => rfl
  | cons path paths ih =>
    rw [List.mapM_cons, ih, List.findSome?_cons, checked]
    cases pathFault? config path with
    | some error => rfl
    | none => cases paths.findSome? (pathFault? config) <;> rfl

theorem checkedPaths_eq (index : Index) :
    checkedPaths schema config index =
      match structuralFault? schema config index with
      | some error => .error error
      | none => .ok (effectivePaths schema index) :=
  mapM_checked _

theorem structuralFault?_eq_none :
    structuralFault? schema config index = none ↔ Sound schema config index := by
  simp only [structuralFault?, List.findSome?_eq_none_iff, mem_effectivePaths, pathFault?_eq_none]
  constructor
  · intro h field hfield htracked path hpath
    exact h path ⟨field, hfield, htracked, hpath⟩
  · rintro h path ⟨field, hfield, htracked, hpath⟩
    exact h field hfield htracked path hpath

theorem structuralFault?_eq_some (hbuilt : index.IsBuilt) :
    structuralFault? schema config index = some error ↔
      ∃ field ∈ index.fieldList, field.standalone = false ∧
        (∀ other ∈ index.fieldList, other.standalone = false →
          compare other.name field.name = .lt →
          ∀ path ∈ schema.expand other.path, path.Sound config) ∧
        ∃ before path after, schema.expand field.path = before ++ path :: after ∧
          (∀ path ∈ before, path.Sound config) ∧ PathFault config path error := by
  have hordered : index.trackedFields.Pairwise
      (fun field other => compare field.name other.name = .lt) :=
    hbuilt.consistent.pairwise_fieldList.filter _
  have hnone : ∀ paths : List Path, paths.findSome? (pathFault? config) = none ↔
      ∀ path ∈ paths, path.Sound config := by
    simp [pathFault?_eq_none]
  rw [structuralFault?, effectivePaths, Result.findSome?_flatMap,
    Result.findSome?_eq_some_of_pairwise Std.OrientedCmp.not_lt_of_lt hordered]
  simp only [Index.mem_trackedFields, hnone, List.findSome?_eq_some_iff, pathFault?_eq_some,
    pathFault?_eq_none]
  constructor
  · rintro ⟨field, ⟨hfield, htracked⟩, ⟨before, path, after, hpaths, hfault, hbefore⟩, hfields⟩
    exact ⟨field, hfield, htracked, fun other hother hfree => hfields other ⟨hother, hfree⟩,
      before, path, after, hpaths, hbefore, hfault⟩
  · rintro ⟨field, hfield, htracked, hfields, before, path, after, hpaths, hbefore, hfault⟩
    exact ⟨field, ⟨hfield, htracked⟩, ⟨before, path, after, hpaths, hfault, hbefore⟩,
      fun other hother => hfields other hother.1 hother.2⟩

/-- The error that an index is refused with after earlier ones. -/
def refusal? (schema : Schema) (config : Config) (earlier : List Index) (index : Index) :
    Option TrackingError :=
  (structuralFault? schema config index).or
    (if config.duplicates = .reject ∧ ∃ other ∈ earlier, other.Clashes index then
      some (.duplicateDefinition index.entity index.name)
    else none)

theorem refusal?_eq_some {earlier : List Index} (hbuilt : index.IsBuilt) :
    refusal? schema config earlier index = some error ↔
      Refuses schema config earlier index error := by
  rw [refusal?, Option.or_eq_some_iff]
  constructor
  · rintro (hfault | ⟨hsound, hduplicate⟩)
    · obtain ⟨field, hfield, htracked, hfields, before, path, after, hpaths, hbefore, hfault⟩ :=
        (structuralFault?_eq_some hbuilt).mp hfault
      exact .path hfield htracked hfields hpaths hbefore hfault
    · split at hduplicate
      · next hclash =>
        cases hduplicate
        exact .duplicate (structuralFault?_eq_none.mp hsound) hclash.1 hclash.2
      · cases hduplicate
  · intro hrefuses
    cases hrefuses with
    | path hfield htracked hfields hpaths hbefore hfault =>
      exact Or.inl ((structuralFault?_eq_some hbuilt).mpr
        ⟨_, hfield, htracked, hfields, _, _, _, hpaths, hbefore, hfault⟩)
    | duplicate hsound hpolicy hclash =>
      exact Or.inr ⟨structuralFault?_eq_none.mpr hsound, if_pos ⟨hpolicy, hclash⟩⟩

theorem refusal?_eq_none {earlier : List Index} :
    refusal? schema config earlier index = none ↔ Sound schema config index ∧
      (config.duplicates = .reject → ∀ other ∈ earlier, ¬other.Clashes index) := by
  simp [refusal?, structuralFault?_eq_none]

def advance (schema : Schema) (snapshot : Snapshot) (index : Index) : Snapshot :=
  if (snapshot.catalog.collision? index).isNone then registered schema snapshot index else snapshot

/-- The snapshot follows the policy, and under the strict one it holds all earlier indexes. -/
structure Follows (config : Config) (earlier : List Index) (snapshot : Snapshot) : Prop where
  consistent : snapshot.catalog.Consistent
  policy : snapshot.catalog.policy = config.duplicates
  indexes : config.duplicates = .reject → snapshot.catalog.indexes = earlier

theorem follows_blank : Follows config [] (blank config) where
  consistent := .empty _
  policy := rfl
  indexes := fun _ => rfl

theorem Follows.advance {earlier : List Index} {snapshot : Snapshot}
    (h : Follows config earlier snapshot) (hnone : refusal? schema config earlier index = none) :
    Follows config (earlier ++ [index]) (advance schema snapshot index) := by
  unfold Compilation.advance
  cases hcoll : snapshot.catalog.collision? index with
  | none =>
    exact ⟨consistent_registered h.consistent hcoll, h.policy,
      fun hreject => congrArg (· ++ [index]) (h.indexes hreject)⟩
  | some kept =>
    refine ⟨h.consistent, h.policy, fun hreject => ?_⟩
    have hfree : snapshot.catalog.collision? index = none := by
      rw [h.consistent.collision?_eq_none, h.indexes hreject]
      exact (refusal?_eq_none.mp hnone).2 hreject
    rw [hfree] at hcoll
    cases hcoll

theorem outcome_compileFrom_cons {earlier rest : List Index} {start : Snapshot}
    (h : Follows config earlier start) :
    (compileFrom schema config start (index :: rest)).outcome =
      match refusal? schema config earlier index with
      | some error => .error error
      | none => (compileFrom schema config (advance schema start index) rest).outcome := by
  rw [compileFrom, checkedPaths_eq, refusal?]
  cases structuralFault? schema config index with
  | some error => rfl
  | none =>
    cases hpolicy : config.duplicates with
    | warn =>
      cases hcoll : start.catalog.collision? index <;>
        simp [Catalog.register, advance, hcoll, h.policy, hpolicy, registered]
    | reject =>
      have hclash : (∃ other ∈ earlier, other.Clashes index) ↔
          start.catalog.collision? index ≠ none := by
        rw [ne_eq, h.consistent.collision?_eq_none, h.indexes hpolicy]
        push Not
        rfl
      cases hcoll : start.catalog.collision? index <;>
        simp [Catalog.register, advance, hcoll, h.policy, hpolicy, hclash, registered]

/-- The first index to be refused decides. -/
theorem outcome_compileFrom_eq_error {earlier rest : List Index} {start : Snapshot}
    (h : Follows config earlier start) :
    (compileFrom schema config start rest).outcome = .error error ↔
      ∃ i index, rest[i]? = some index ∧
        refusal? schema config (earlier ++ rest.take i) index = some error ∧
        ∀ j < i, ∀ other, rest[j]? = some other →
          refusal? schema config (earlier ++ rest.take j) other = none := by
  induction rest generalizing start earlier with
  | nil => simp [compileFrom]
  | cons index rest ih =>
    rw [outcome_compileFrom_cons h]
    cases hrefusal : refusal? schema config earlier index with
    | some first =>
      constructor
      · rintro ⟨⟩
        exact ⟨0, index, rfl, by simpa using hrefusal, by simp⟩
      · rintro ⟨i, other, hother, herror, hbefore⟩
        cases i with
        | zero =>
          cases hother
          simpa [hrefusal] using herror
        | succ i => simpa [hrefusal] using hbefore 0 (by simp) index rfl
    | none =>
      -- nothing is refused at the head, so positions in the rest are shifted by one
      rw [ih (h.advance hrefusal)]
      have hshift : ∀ i, earlier ++ [index] ++ rest.take i =
          earlier ++ (index :: rest).take (i + 1) := by simp
      simp only [hshift]
      constructor
      · rintro ⟨i, other, hother, herror, hbefore⟩
        refine ⟨i + 1, other, hother, herror, fun j hj => ?_⟩
        cases j with
        | zero => simpa using hrefusal
        | succ j => exact hbefore j (by omega)
      · rintro ⟨i, other, hother, herror, hbefore⟩
        cases i with
        | zero =>
          cases hother
          simp [hrefusal] at herror
        | succ i =>
          exact ⟨i, other, hother, herror, fun j hj => hbefore (j + 1) (by omega)⟩

theorem exists_outcome_compileFrom_eq_error {earlier rest : List Index} {start : Snapshot}
    (h : Follows config earlier start) :
    (∃ error, (compileFrom schema config start rest).outcome = .error error) ↔
      ∃ i index, rest[i]? = some index ∧
        refusal? schema config (earlier ++ rest.take i) index ≠ none := by
  constructor
  · rintro ⟨error, herror⟩
    obtain ⟨i, index, hindex, hrefusal, _⟩ := (outcome_compileFrom_eq_error h).mp herror
    exact ⟨i, index, hindex, by simp [hrefusal]⟩
  · intro hrefused
    classical
    obtain ⟨index, hindex, hrefusal⟩ := Nat.find_spec hrefused
    obtain ⟨error, herror⟩ := Option.ne_none_iff_exists'.mp hrefusal
    refine ⟨error, (outcome_compileFrom_eq_error h).mpr ⟨_, index, hindex, herror, ?_⟩⟩
    intro j hj other hother
    by_contra hother'
    exact Nat.find_min hrefused hj ⟨other, hother, hother'⟩

theorem forall_refusal?_eq_none {indexes : List Index} :
    (∀ i index, indexes[i]? = some index →
      refusal? schema config (indexes.take i) index = none) ↔
      (∀ index ∈ indexes, Sound schema config index) ∧
        (config.duplicates = .reject →
          (indexes.map Index.entity).Nodup ∧ (indexes.map Index.name).Nodup) := by
  simp only [refusal?_eq_none, Index.nodup_map_iff_pairwise, List.pairwise_iff_getElem]
  constructor
  · intro h
    refine ⟨fun index hindex => ?_, fun hreject i j hi hj hij => ?_⟩
    · obtain ⟨i, hi⟩ := List.mem_iff_getElem?.mp hindex
      exact (h i index hi).1
    · refine (h j _ (List.getElem?_eq_getElem hj)).2 hreject _ ?_
      exact List.mem_take_iff_getElem.mpr ⟨i, by omega, rfl⟩
  · rintro ⟨hsound, hapart⟩ i index hindex
    refine ⟨hsound index (List.mem_of_getElem? hindex), fun hreject other hother => ?_⟩
    obtain ⟨j, hj, rfl⟩ := List.mem_take_iff_getElem.mp hother
    obtain ⟨hi, rfl⟩ := List.getElem?_eq_some_iff.mp hindex
    exact hapart hreject j i (by omega) hi (by omega)

theorem compile_eq_error {indexes : List Index} :
    (compile schema config indexes).outcome = .error error ↔
      (∃ fault, config.fault? = some fault ∧ error = .config fault) ∨
        config.fault? = none ∧
          (compileFrom schema config (blank config) indexes).outcome = .error error := by
  unfold compile
  cases config.fault? <;> simp [blank, eq_comm]

theorem exists_compile_eq_error {indexes : List Index} :
    (∃ error, (compile schema config indexes).outcome = .error error) ↔
      config.fault? ≠ none ∨ (∃ index ∈ indexes, ¬Sound schema config index) ∨
        config.duplicates = .reject ∧
          ¬((indexes.map Index.entity).Nodup ∧ (indexes.map Index.name).Nodup) := by
  have hrefused : (∃ i index, indexes[i]? = some index ∧
      refusal? schema config (indexes.take i) index ≠ none) ↔
        (∃ index ∈ indexes, ¬Sound schema config index) ∨ config.duplicates = .reject ∧
          ¬((indexes.map Index.entity).Nodup ∧ (indexes.map Index.name).Nodup) := by
    rw [← not_iff_not]
    push Not
    exact forall_refusal?_eq_none
  rw [← hrefused]
  simp only [compile_eq_error, exists_or, exists_and_left]
  cases hfault : config.fault? with
  | some fault => simp
  | none =>
    have hfrom : (∃ error, (compileFrom schema config (blank config) indexes).outcome =
        .error error) ↔ _ := exists_outcome_compileFrom_eq_error follows_blank
    simpa using hfrom

theorem exists_compile_eq_ok {indexes : List Index} :
    (∃ snapshot, (compile schema config indexes).outcome = .ok snapshot) ↔
      ¬∃ error, (compile schema config indexes).outcome = .error error := by
  cases (compile schema config indexes).outcome <;> simp

theorem Refuses.isMappingError {earlier : List Index}
    (h : Refuses schema config earlier index error) : error.isMappingError = true := by
  cases h with
  | path _ _ _ _ _ hfault => cases hfault <;> rfl
  | duplicate _ _ _ => rfl

theorem refusesAt_iff {indexes : List Index} (hbuilt : ∀ index ∈ indexes, index.IsBuilt) {i : Nat} :
    RefusesAt schema config indexes i error ↔ ∃ index, indexes[i]? = some index ∧
      refusal? schema config (indexes.take i) index = some error := by
  refine exists_congr fun index => and_congr_right fun hindex => ?_
  exact (refusal?_eq_some (hbuilt index (List.mem_of_getElem? hindex))).symm

theorem outcome_compileFrom_blank_eq_error {indexes : List Index}
    (hbuilt : ∀ index ∈ indexes, index.IsBuilt) :
    (compileFrom schema config (blank config) indexes).outcome = .error error ↔
      ∃ i, RefusesAt schema config indexes i error ∧
        ∀ j < i, ∀ other, ¬RefusesAt schema config indexes j other := by
  rw [outcome_compileFrom_eq_error follows_blank]
  simp only [refusesAt_iff hbuilt, List.nil_append]
  constructor
  · rintro ⟨i, index, hindex, herror, hbefore⟩
    refine ⟨i, ⟨index, hindex, herror⟩, ?_⟩
    rintro j hj error ⟨other, hother, herror⟩
    rw [hbefore j hj other hother] at herror
    cases herror
  · rintro ⟨i, ⟨index, hindex, herror⟩, hbefore⟩
    refine ⟨i, index, hindex, herror, fun j hj other hother => ?_⟩
    exact Option.eq_none_iff_forall_ne_some.mpr fun error herror =>
      hbefore j hj error ⟨other, hother, herror⟩

/-- A compilation fails if and only if the configuration is invalid, some index, be it dropped or
not, has a tracked field with a path that is too long or crosses a property twice, or the policy is
strict and two indexes have one entity type or one name. The error is that of the configuration or
of the first index to be refused; with a valid configuration it is one of the mapping. -/
theorem compile_refuses {indexes : List Index} (hbuilt : ∀ index ∈ indexes, index.IsBuilt) :
    ((∃ error, (compile schema config indexes).outcome = .error error) ↔
      config.fault? ≠ none ∨
        (∃ index ∈ indexes, ∃ field ∈ index.fieldList, field.standalone = false ∧
          ∃ path ∈ schema.expand field.path, config.pathLimit.toNat < path.length ∨
            ¬(path.hops.map Property.crossing).Nodup) ∨
        config.duplicates = .reject ∧
          ¬((indexes.map Index.entity).Nodup ∧ (indexes.map Index.name).Nodup)) ∧
    (∀ error, (compile schema config indexes).outcome = .error error ↔
      (∃ fault, config.fault? = some fault ∧ error = .config fault) ∨
        config.fault? = none ∧ ∃ i, RefusesAt schema config indexes i error ∧
          ∀ j < i, ∀ other, ¬RefusesAt schema config indexes j other) ∧
    (config.fault? = none → ∀ error, (compile schema config indexes).outcome = .error error →
      error.isMappingError = true) := by
  have hfirst : ∀ error, (compile schema config indexes).outcome = .error error ↔
      (∃ fault, config.fault? = some fault ∧ error = .config fault) ∨
        config.fault? = none ∧ ∃ i, RefusesAt schema config indexes i error ∧
          ∀ j < i, ∀ other, ¬RefusesAt schema config indexes j other := by
    intro error
    rw [compile_eq_error, outcome_compileFrom_blank_eq_error hbuilt]
  refine ⟨?_, hfirst, ?_⟩
  · simp only [exists_compile_eq_error, not_sound_iff]
  · intro hvalid error herror
    rcases (hfirst error).mp herror with ⟨fault, hfault, _⟩ | ⟨_, _, ⟨index, _, hrefuses⟩, _⟩
    · rw [hvalid] at hfault
      cases hfault
    · exact hrefuses.isMappingError

end Compilation

namespace Shop

def strict : Config := { Config.standard with duplicates := .reject }

/-- The second index would clash with the first one, and it follows referrers twice. -/
def circular : List Definition :=
  [⟨"Order", none, ["number"], [], []⟩,
    ⟨"Order", none, ["number", "buyer.referrers.referrers"], [], []⟩]

def circularIndexes : List Index :=
  (circular.mapM (schema.indexOf strict)).toOption.getD []

theorem mapM_circular : circular.mapM (schema.indexOf strict) = .ok circularIndexes := by rfl

end Shop

theorem Compilation.compile_refuses_shop :
    (∀ index ∈ Shop.circularIndexes, index.IsBuilt) ∧
      ∃ i, RefusesAt Shop.schema Shop.strict Shop.circularIndexes i
        (.mappingCycle "Order" "buyer.referrers.referrers.company" "Customer" "referrers") := by
  have hbuilt : ∀ index ∈ Shop.circularIndexes, index.IsBuilt := by
    intro index hindex
    obtain ⟨definition, _, hdefinition⟩ := Result.exists_of_mem_mapM Shop.mapM_circular hindex
    exact (Schema.declares_of_indexOf hdefinition).1
  have houtcome : (compile Shop.schema Shop.strict Shop.circularIndexes).outcome =
      .error (.mappingCycle "Order" "buyer.referrers.referrers.company" "Customer"
        "referrers") := by rfl
  rcases ((compile_refuses hbuilt).2.1 _).mp houtcome with ⟨fault, hfault, _⟩ | ⟨_, i, hrefuses, _⟩
  · cases hfault
  · exact ⟨hbuilt, i, hrefuses⟩

end Reindex
