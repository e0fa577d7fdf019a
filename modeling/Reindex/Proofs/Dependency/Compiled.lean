import Reindex.Dependency.Compilation
import Reindex.Proofs.Dependency.Catalog
import Reindex.Proofs.Dependency.Facts
import Reindex.Proofs.Mapping.Fields
import Reindex.Proofs.Result

namespace Reindex

namespace Snapshot

variable (schema : Schema) (snapshot : Snapshot)

def effectivePaths : List Path :=
  snapshot.catalog.indexes.flatMap (Compilation.effectivePaths schema)

/-- The catalog is consistent. Registry and affected types are those of the registered indexes, and
of nothing else. -/
structure Reflects : Prop where
  catalog : snapshot.catalog.Consistent
  registry : snapshot.registry =
    Registry.empty.insertAll ((snapshot.effectivePaths schema).flatMap Entry.chain)
  affected : ∀ entity : EntityName, entity ∈ snapshot.catalog.affected ↔
    (∃ index ∈ snapshot.catalog.indexes, entity ∈ index.affected) ∨
      ∃ path ∈ snapshot.effectivePaths schema, entity ∈ path.targets

end Snapshot

namespace Compilation

variable {schema : Schema} {config : Config}

theorem mem_effectivePaths {index : Index} {path : Path} :
    path ∈ effectivePaths schema index ↔
      ∃ field ∈ index.fieldList, field.standalone = false ∧ path ∈ schema.expand field.path := by
  simp [effectivePaths, Index.mem_trackedFields, and_assoc]

theorem checked_eq_ok {path result : Path} :
    checked config path = .ok result ↔ pathFault? config path = none ∧ result = path := by
  unfold checked
  cases pathFault? config path <;> simp [eq_comm]

/-- Checking refuses paths but changes none. -/
theorem checkedPaths_eq_ok {index : Index} {paths : List Path} :
    checkedPaths schema config index = .ok paths ↔
      (∀ path ∈ effectivePaths schema index, pathFault? config path = none) ∧
        paths = effectivePaths schema index := by
  rw [checkedPaths, Result.mapM_eq_ok]
  induction effectivePaths schema index generalizing paths with
  | nil => simp
  | cons path rest ih =>
    rw [List.forall₂_cons_left_iff, List.forall_mem_cons]
    constructor
    · rintro ⟨_, _, hpath, hrest, rfl⟩
      obtain ⟨hpath, rfl⟩ := checked_eq_ok.mp hpath
      obtain ⟨hrest, rfl⟩ := ih.mp hrest
      exact ⟨⟨hpath, hrest⟩, rfl⟩
    · rintro ⟨⟨hpath, hrest⟩, rfl⟩
      exact ⟨path, rest, checked_eq_ok.mpr ⟨hpath, rfl⟩, ih.mpr ⟨hrest, rfl⟩, rfl⟩

def registered (schema : Schema) (snapshot : Snapshot) (index : Index) : Snapshot :=
  extend snapshot (snapshot.catalog.add index) (effectivePaths schema index)

theorem compileFrom_cons_eq_ok {start result : Snapshot} {index : Index} {indexes : List Index} :
    (compileFrom schema config start (index :: indexes)).outcome = .ok result ↔
      (∀ path ∈ effectivePaths schema index, pathFault? config path = none) ∧
        ((start.catalog.collision? index = none ∧
            (compileFrom schema config (registered schema start index) indexes).outcome =
              .ok result) ∨
          ((start.catalog.collision? index).isSome ∧ start.catalog.policy = .warn ∧
            (compileFrom schema config start indexes).outcome = .ok result)) := by
  rw [compileFrom]
  cases hpaths : checkedPaths schema config index with
  | error error =>
    have hfault : ¬ ∀ path ∈ effectivePaths schema index, pathFault? config path = none := by
      intro hnone
      rw [checkedPaths_eq_ok.mpr ⟨hnone, rfl⟩] at hpaths
      cases hpaths
    simp [hfault]
  | ok paths =>
    obtain ⟨hnone, rfl⟩ := checkedPaths_eq_ok.mp hpaths
    rw [and_iff_right hnone]
    cases hcoll : start.catalog.collision? index with
    | none => simp [Catalog.register, hcoll, registered]
    | some kept =>
      cases hpolicy : start.catalog.policy <;> simp [Catalog.register, hcoll, hpolicy]

/-- What every registration keeps holds of the compiled snapshot. -/
theorem compileFrom_preserves {P : Snapshot → Prop} {indexes : List Index}
    (hstep : ∀ snapshot, ∀ index ∈ indexes, snapshot.catalog.collision? index = none →
      (∀ path ∈ effectivePaths schema index, pathFault? config path = none) →
      P snapshot → P (registered schema snapshot index))
    {start result : Snapshot} (hstart : P start)
    (h : (compileFrom schema config start indexes).outcome = .ok result) : P result := by
  induction indexes generalizing start with
  | nil =>
    cases h
    exact hstart
  | cons index indexes ih =>
    have hrest : ∀ snapshot, ∀ index ∈ indexes, snapshot.catalog.collision? index = none →
        (∀ path ∈ effectivePaths schema index, pathFault? config path = none) →
        P snapshot → P (registered schema snapshot index) :=
      fun snapshot other hmem => hstep snapshot other (by simp [hmem])
    -- the index is registered, which keeps `P`, or it is dropped, which leaves the snapshot alone
    obtain ⟨hnone, ⟨hcoll, h⟩ | ⟨_, _, h⟩⟩ := compileFrom_cons_eq_ok.mp h
    · exact ih hrest (hstep start index (by simp) hcoll hnone hstart) h
    · exact ih hrest hstart h

theorem effectivePaths_registered (snapshot : Snapshot) (index : Index) :
    (registered schema snapshot index).effectivePaths schema =
      snapshot.effectivePaths schema ++ effectivePaths schema index := by
  simp [Snapshot.effectivePaths, registered, extend, Catalog.extendAffected, Catalog.add]

theorem consistent_registered {snapshot : Snapshot} {index : Index}
    (h : snapshot.catalog.Consistent) (hfree : snapshot.catalog.collision? index = none) :
    (registered schema snapshot index).catalog.Consistent :=
  (h.add (h.collision?_eq_none.mp hfree)).extendAffected _

theorem reflects_registered {snapshot : Snapshot} {index : Index} (h : snapshot.Reflects schema)
    (hfree : snapshot.catalog.collision? index = none) :
    (registered schema snapshot index).Reflects schema where
  catalog := consistent_registered h.catalog hfree
  registry := by
    rw [effectivePaths_registered, List.flatMap_append, Registry.insertAll_append, ← h.registry]
    rfl
  affected := by
    intro entity
    rw [effectivePaths_registered]
    simp only [registered, extend, Catalog.extendAffected, Catalog.add,
      Std.ExtTreeSet.mem_insertMany_list, List.contains_eq_mem, decide_eq_true_eq, h.affected,
      Std.ExtTreeSet.mem_toList, List.mem_flatMap, List.mem_append, List.mem_singleton,
      or_and_right, exists_or, exists_eq_left]
    rw [or_assoc]
    exact or_or_or_comm

def blank (config : Config) : Snapshot := ⟨Catalog.empty config.duplicates, Registry.empty⟩

theorem reflects_blank : (blank config).Reflects schema where
  catalog := .empty _
  registry := rfl
  affected := by simp [blank, Snapshot.effectivePaths, Catalog.empty]

theorem compile_eq_ok {indexes : List Index} {snapshot : Snapshot} :
    (compile schema config indexes).outcome = .ok snapshot ↔
      config.fault? = none ∧
        (compileFrom schema config (blank config) indexes).outcome = .ok snapshot := by
  unfold compile
  cases config.fault? <;> simp [blank]

theorem reflects_of_compile {indexes : List Index} {snapshot : Snapshot}
    (h : (compile schema config indexes).outcome = .ok snapshot) : snapshot.Reflects schema := by
  refine compileFrom_preserves (P := Snapshot.Reflects schema) ?_ reflects_blank
    (compile_eq_ok.mp h).2
  exact fun _ index _ hfree _ hsnapshot => reflects_registered hsnapshot hfree

theorem mem_of_mem_compiled {indexes : List Index} {snapshot : Snapshot}
    (h : (compile schema config indexes).outcome = .ok snapshot) :
    ∀ index ∈ snapshot.catalog.indexes, index ∈ indexes := by
  refine compileFrom_preserves (P := fun snapshot => ∀ index ∈ snapshot.catalog.indexes,
    index ∈ indexes) ?_ (by simp [blank, Catalog.empty]) (compile_eq_ok.mp h).2
  intro snapshot index hmem _ _ hsnapshot other hother
  rcases List.mem_append.mp hother with hother | hother
  · exact hsnapshot other hother
  · rw [List.mem_singleton.mp hother]
    exact hmem

theorem isBuilt_of_compile {indexes : List Index} {snapshot : Snapshot}
    (hbuilt : ∀ index ∈ indexes, index.IsBuilt)
    (h : (compile schema config indexes).outcome = .ok snapshot) :
    ∀ index ∈ snapshot.catalog.indexes, index.IsBuilt :=
  fun index hindex => hbuilt index (mem_of_mem_compiled h index hindex)

theorem compileFrom_append {start middle : Snapshot} {xs : List Index}
    (h : compileFrom schema config start xs = ⟨[], .ok middle⟩) (ys : List Index) :
    compileFrom schema config start (xs ++ ys) = compileFrom schema config middle ys := by
  induction xs generalizing start with
  | nil =>
    rw [compileFrom] at h
    cases h
    rfl
  | cons index xs ih =>
    rw [List.cons_append, compileFrom]
    rw [compileFrom] at h
    cases hpaths : checkedPaths schema config index with
    | error error => simp [hpaths] at h
    | ok paths =>
      rcases hregister : start.catalog.register index with ⟨answer, catalog⟩
      cases answer with
      | error error => simp [hpaths, hregister] at h
      | ok registration =>
        cases registration with
        | added => exact ih (by simpa only [hpaths, hregister] using h)
        | dropped warning => simp [hpaths, hregister] at h

theorem compileFrom_singleton {snapshot : Snapshot} {index : Index}
    (hcoll : snapshot.catalog.collision? index = none)
    (hnone : ∀ path ∈ effectivePaths schema index, pathFault? config path = none) :
    compileFrom schema config snapshot [index] = ⟨[], .ok (registered schema snapshot index)⟩ := by
  simp only [compileFrom, checkedPaths_eq_ok.mpr ⟨hnone, rfl⟩, Catalog.register, hcoll, registered]

/-- The registered indexes alone compile to the same snapshot: dropped ones leave no trace. -/
theorem compile_indexes {indexes : List Index} {snapshot : Snapshot}
    (h : (compile schema config indexes).outcome = .ok snapshot) :
    compile schema config snapshot.catalog.indexes = ⟨[], .ok snapshot⟩ := by
  obtain ⟨hvalid, hfrom⟩ := compile_eq_ok.mp h
  simp only [compile, hvalid]
  refine compileFrom_preserves (P := fun snapshot =>
    compileFrom schema config (blank config) snapshot.catalog.indexes = ⟨[], .ok snapshot⟩)
    ?_ rfl hfrom
  intro before index _ hcoll hnone hbefore
  have hindexes : (registered schema before index).catalog.indexes =
    before.catalog.indexes ++ [index] := rfl
  rw [hindexes, compileFrom_append hbefore, compileFrom_singleton hcoll hnone]

theorem compileDefinitions_eq_ok {definitions : List Definition} {snapshot : Snapshot} :
    (compileDefinitions schema config definitions).outcome = .ok snapshot ↔
      ∃ indexes, definitions.mapM (schema.indexOf config) = .ok indexes ∧
        (compile schema config indexes).outcome = .ok snapshot := by
  unfold compileDefinitions
  cases definitions.mapM (schema.indexOf config) <;> simp

end Compilation

end Reindex
