import Reindex.Proofs.Dependency.Refusal

namespace Reindex

namespace Index

/-- The indexes that are kept after earlier ones: those that clash with none kept before them. -/
def keptAfter (earlier : List Index) : List Index → List Index
  | [] => []
  | index :: indexes =>
    if ∃ other ∈ earlier, other.Clashes index then keptAfter earlier indexes
    else index :: keptAfter (earlier ++ [index]) indexes

def leftOutAfter (earlier : List Index) : List Index → List Index
  | [] => []
  | index :: indexes =>
    if ∃ other ∈ earlier, other.Clashes index then index :: leftOutAfter earlier indexes
    else leftOutAfter (earlier ++ [index]) indexes

def kept (indexes : List Index) : List Index := keptAfter [] indexes

def leftOut (indexes : List Index) : List Index := leftOutAfter [] indexes

theorem Clashes.refl (index : Index) : index.Clashes index := Or.inl rfl

theorem keptAfter_append (earlier xs ys : List Index) :
    keptAfter earlier (xs ++ ys) =
      keptAfter earlier xs ++ keptAfter (earlier ++ keptAfter earlier xs) ys := by
  induction xs generalizing earlier with
  | nil => simp [keptAfter]
  | cons index xs ih =>
    rw [List.cons_append, keptAfter, keptAfter]
    split
    · exact ih earlier
    · rw [ih (earlier ++ [index]), List.cons_append, List.append_assoc, List.singleton_append]

theorem keptAfter_eq_nil {earlier indexes : List Index}
    (h : ∀ index ∈ indexes, ∃ other ∈ earlier, other.Clashes index) :
    keptAfter earlier indexes = [] := by
  induction indexes with
  | nil => rfl
  | cons index indexes ih =>
    obtain ⟨hindex, hrest⟩ := List.forall_mem_cons.mp h
    rw [keptAfter, if_pos hindex, ih hrest]

theorem exists_clashes_keptAfter (earlier indexes : List Index) :
    ∀ index ∈ indexes, ∃ other ∈ earlier ++ keptAfter earlier indexes, other.Clashes index := by
  induction indexes generalizing earlier with
  | nil => simp
  | cons first indexes ih =>
    rw [keptAfter, List.forall_mem_cons]
    split
    · next hclash =>
      obtain ⟨other, hother, hclashes⟩ := hclash
      exact ⟨⟨other, List.mem_append_left _ hother, hclashes⟩, ih earlier⟩
    · rw [List.append_cons]
      refine ⟨⟨first, ?_, Clashes.refl first⟩, ih (earlier ++ [first])⟩
      simp

theorem kept_append_self (indexes : List Index) : kept (indexes ++ indexes) = kept indexes := by
  rw [kept, keptAfter_append, keptAfter_eq_nil (exists_clashes_keptAfter [] indexes),
    List.append_nil, kept]

theorem perm_keptAfter_append_leftOutAfter (earlier indexes : List Index) :
    (keptAfter earlier indexes ++ leftOutAfter earlier indexes).Perm indexes := by
  induction indexes generalizing earlier with
  | nil => exact .nil
  | cons index indexes ih =>
    rw [keptAfter, leftOutAfter]
    split
    · exact List.perm_middle.trans ((ih earlier).cons index)
    · exact (ih (earlier ++ [index])).cons index

end Index

/-- The warning names the index that is left out and a kept one that it clashes with. -/
structure DroppedIndex.Reports (kept : List Index) (warning : DroppedIndex) (index : Index) :
    Prop where
  entity : warning.entity = index.entity
  name : warning.index = index.name
  kept : ∃ other ∈ kept, other.Clashes index ∧ warning.keptIndex = other.name ∧
    warning.keptEntity = other.entity

def Config.withPolicy (config : Config) (policy : DuplicatePolicy) : Config :=
  { config with duplicates := policy }

namespace Snapshot

def withPolicy (snapshot : Snapshot) (policy : DuplicatePolicy) : Snapshot :=
  { snapshot with catalog := { snapshot.catalog with policy } }

structure SameContents (snapshot other : Snapshot) : Prop where
  registry : snapshot.registry = other.registry
  affected : snapshot.catalog.affected = other.catalog.affected
  indexes : snapshot.catalog.indexes = other.catalog.indexes

theorem sameContents_withPolicy (snapshot : Snapshot) (policy : DuplicatePolicy) :
    snapshot.SameContents (snapshot.withPolicy policy) where
  registry := rfl
  affected := rfl
  indexes := rfl

end Snapshot

namespace Compilation

variable {schema : Schema} {config : Config} {start snapshot : Snapshot} {index : Index}
  {indexes : List Index}

theorem compileFrom_cons_of_free (hsound : Sound schema config index)
    (hfree : start.catalog.collision? index = none) :
    compileFrom schema config start (index :: indexes) =
      compileFrom schema config (registered schema start index) indexes := by
  rw [compileFrom, checkedPaths_eq, structuralFault?_eq_none.mpr hsound]
  simp only [Catalog.register, hfree, registered]

theorem compileFrom_cons_of_taken (hsound : Sound schema config index)
    (hpolicy : start.catalog.policy = .warn) {kept : Index}
    (htaken : start.catalog.collision? index = some kept) :
    compileFrom schema config start (index :: indexes) =
      ⟨⟨index.entity, index.name, kept.name, kept.entity⟩ ::
          (compileFrom schema config start indexes).dropped,
        (compileFrom schema config start indexes).outcome⟩ := by
  rw [compileFrom, checkedPaths_eq, structuralFault?_eq_none.mpr hsound]
  simp only [Catalog.register, htaken, hpolicy]

/-- The lenient policy registers what is kept and warns once of each other index. -/
theorem exists_compileFrom_warn (hconsistent : start.catalog.Consistent)
    (hsound : ∀ index ∈ indexes, Sound schema config index)
    (hpolicy : start.catalog.policy = .warn) :
    ∃ snapshot, (compileFrom schema config start indexes).outcome = .ok snapshot ∧
      snapshot.catalog.indexes =
        start.catalog.indexes ++ Index.keptAfter start.catalog.indexes indexes ∧
      List.Forall₂ (DroppedIndex.Reports snapshot.catalog.indexes)
        (compileFrom schema config start indexes).dropped
        (Index.leftOutAfter start.catalog.indexes indexes) := by
  induction indexes generalizing start with
  | nil => exact ⟨start, rfl, (List.append_nil _).symm, .nil⟩
  | cons index indexes ih =>
    obtain ⟨hindex, hrest⟩ := List.forall_mem_cons.mp hsound
    rw [Index.keptAfter, Index.leftOutAfter]
    cases hcoll : start.catalog.collision? index with
    | none =>
      have hfree : ¬∃ other ∈ start.catalog.indexes, other.Clashes index := by
        simpa using hconsistent.collision?_eq_none.mp hcoll
      rw [if_neg hfree, if_neg hfree, compileFrom_cons_of_free hindex hcoll, List.append_cons]
      exact ih (consistent_registered hconsistent hcoll) hrest hpolicy
    | some kept =>
      obtain ⟨hkept, hclashes⟩ := hconsistent.collision?_eq_some hcoll
      have htaken : ∃ other ∈ start.catalog.indexes, other.Clashes index := ⟨kept, hkept, hclashes⟩
      rw [if_pos htaken, if_pos htaken, compileFrom_cons_of_taken hindex hpolicy hcoll]
      obtain ⟨snapshot, houtcome, hindexes, hdropped⟩ := ih hconsistent hrest hpolicy
      -- the index that the warning names was kept earlier, so it is among all that are kept
      refine ⟨snapshot, houtcome, hindexes, .cons ⟨rfl, rfl, kept, ?_, hclashes, rfl, rfl⟩ hdropped⟩
      rw [hindexes]
      exact List.mem_append_left _ hkept

theorem dropped_compileFrom_reject (hpolicy : start.catalog.policy = .reject) :
    (compileFrom schema config start indexes).dropped = [] := by
  induction indexes generalizing start with
  | nil => rfl
  | cons index indexes ih =>
    rw [compileFrom]
    cases checkedPaths schema config index with
    | error error => rfl
    | ok paths =>
      unfold Catalog.register
      cases start.catalog.collision? index with
      | none => exact ih hpolicy
      | some kept => simp only [hpolicy]

theorem sound_withPolicy {policy : DuplicatePolicy} :
    Sound schema (config.withPolicy policy) index ↔ Sound schema config index := by
  have hsame : structuralFault? schema (config.withPolicy policy) index =
      structuralFault? schema config index := rfl
  rw [← structuralFault?_eq_none, hsame, structuralFault?_eq_none]

theorem compileFrom_withPolicy
    (h : compileFrom schema config start indexes = ⟨[], .ok snapshot⟩) (policy : DuplicatePolicy) :
    compileFrom schema (config.withPolicy policy) (start.withPolicy policy) indexes =
      ⟨[], .ok (snapshot.withPolicy policy)⟩ := by
  induction indexes generalizing start with
  | nil =>
    rw [compileFrom] at h ⊢
    cases h
    rfl
  | cons index indexes ih =>
    obtain ⟨hnone, hcases⟩ := compileFrom_cons_eq_ok.mp (congrArg Build.outcome h)
    have hsound : Sound schema config index :=
      structuralFault?_eq_none.mp (List.findSome?_eq_none_iff.mpr hnone)
    rcases hcases with ⟨hfree, _⟩ | ⟨htaken, hpolicy, _⟩
    · have hfree' : (start.withPolicy policy).catalog.collision? index = none := hfree
      rw [compileFrom_cons_of_free hsound hfree] at h
      rw [compileFrom_cons_of_free (sound_withPolicy.mpr hsound) hfree']
      exact ih h
    · obtain ⟨kept, hkept⟩ := Option.isSome_iff_exists.mp htaken
      rw [compileFrom_cons_of_taken hsound hpolicy hkept] at h
      cases h

theorem compile_withPolicy (h : compile schema config indexes = ⟨[], .ok snapshot⟩)
    (policy : DuplicatePolicy) :
    compile schema (config.withPolicy policy) indexes =
      ⟨[], .ok (snapshot.withPolicy policy)⟩ := by
  unfold compile at h ⊢
  cases hfault : config.fault? with
  | some fault => simp [hfault] at h
  | none =>
    have hfault' : (config.withPolicy policy).fault? = none := hfault
    simp only [hfault] at h
    simp only [hfault']
    exact compileFrom_withPolicy h policy

/-- What follows an index that is refused is not looked at. -/
theorem outcome_compile_append_eq_error {error : TrackingError}
    (h : (compile schema config indexes).outcome = .error error) (others : List Index) :
    (compile schema config (indexes ++ others)).outcome = .error error := by
  rw [compile_eq_error] at h ⊢
  refine h.imp_right (And.imp_right fun hfrom => ?_)
  obtain ⟨i, index, hindex, hrefusal, hbefore⟩ :=
    (outcome_compileFrom_eq_error follows_blank).mp hfrom
  have hi : i < indexes.length := (List.getElem?_eq_some_iff.mp hindex).1
  have htake : ∀ j ≤ i, (indexes ++ others).take j = indexes.take j :=
    fun j hj => List.take_append_of_le_length (by omega)
  refine (outcome_compileFrom_eq_error follows_blank).mpr ⟨i, index, ?_, ?_, ?_⟩
  · rw [List.getElem?_append_left hi, hindex]
  · rw [htake i (Nat.le_refl i), hrefusal]
  · intro j hj other hother
    rw [List.getElem?_append_left (by omega)] at hother
    rw [htake j (Nat.le_of_lt hj), hbefore j hj other hother]

theorem compile_eq_compileFrom (hvalid : config.fault? = none) (indexes : List Index) :
    compile schema config indexes = compileFrom schema config (blank config) indexes := by
  simp only [compile, hvalid]
  rfl

theorem exists_compile_warn_eq_ok (hvalid : config.fault? = none) :
    (∃ snapshot, (compile schema (config.withPolicy .warn) indexes).outcome = .ok snapshot) ↔
      ∀ index ∈ indexes, Sound schema config index := by
  have hvalid' : (config.withPolicy .warn).fault? = none := hvalid
  have hpolicy : (config.withPolicy .warn).duplicates ≠ .reject := by simp [Config.withPolicy]
  rw [exists_compile_eq_ok, exists_compile_eq_error]
  simp [hvalid', hpolicy, sound_withPolicy]

theorem contents_of_compile_warn
    (h : (compile schema (config.withPolicy .warn) indexes).outcome = .ok snapshot) :
    snapshot.catalog.indexes = Index.kept indexes ∧
      List.Forall₂ (DroppedIndex.Reports (Index.kept indexes))
        (compile schema (config.withPolicy .warn) indexes).dropped (Index.leftOut indexes) := by
  obtain ⟨hvalid, hfrom⟩ := compile_eq_ok.mp h
  have hvalid' : config.fault? = none := hvalid
  have hsound : ∀ index ∈ indexes, Sound schema (config.withPolicy .warn) index := by
    intro index hindex
    exact sound_withPolicy.mpr ((exists_compile_warn_eq_ok hvalid').mp ⟨snapshot, h⟩ index hindex)
  have hpolicy : (blank (config.withPolicy .warn)).catalog.policy = .warn := rfl
  obtain ⟨result, hresult, hindexes, hdropped⟩ :=
    exists_compileFrom_warn (.empty _) hsound hpolicy
  rw [hfrom] at hresult
  cases hresult
  have hkept : snapshot.catalog.indexes = Index.kept indexes := hindexes
  rw [compile_eq_compileFrom hvalid]
  rw [hkept] at hdropped
  exact ⟨hkept, hdropped⟩

theorem compile_reject_eq (h : (compile schema (config.withPolicy .reject) indexes).outcome =
    .ok snapshot) : compile schema (config.withPolicy .reject) indexes = ⟨[], .ok snapshot⟩ := by
  have hdropped : (compile schema (config.withPolicy .reject) indexes).dropped = [] := by
    rw [compile_eq_compileFrom (compile_eq_ok.mp h).1]
    exact dropped_compileFrom_reject rfl
  rw [← h, ← hdropped]

theorem outcome_compile_warn_append_self (hvalid : config.fault? = none) (indexes : List Index) :
    (compile schema (config.withPolicy .warn) (indexes ++ indexes)).outcome =
      (compile schema (config.withPolicy .warn) indexes).outcome := by
  cases houtcome : (compile schema (config.withPolicy .warn) indexes).outcome with
  | error error => exact outcome_compile_append_eq_error houtcome indexes
  | ok snapshot =>
    have hsound := (exists_compile_warn_eq_ok hvalid).mp ⟨snapshot, houtcome⟩
    obtain ⟨twice, htwice⟩ := (exists_compile_warn_eq_ok hvalid).mpr
      (List.forall_mem_append.mpr ⟨hsound, hsound⟩)
    have hindexes : twice.catalog.indexes = snapshot.catalog.indexes := by
      rw [(contents_of_compile_warn htwice).1, (contents_of_compile_warn houtcome).1,
        Index.kept_append_self]
    have hsame := compile_indexes htwice
    rw [hindexes, compile_indexes houtcome] at hsame
    cases hsame
    exact htwice

/-- Under the lenient policy indexes compile if and only if each of them is read along sound paths
only. The contents are those of the kept ones under the strict policy. Each of the others is warned
of once and blocks nothing, and all indexes once more change nothing. The strict policy accepts
indexes if and only if the lenient one leaves none of them out, and then with the same contents. -/
theorem compile_policies_agree (hvalid : config.fault? = none) (indexes : List Index) :
    ((∃ snapshot, (compile schema (config.withPolicy .warn) indexes).outcome = .ok snapshot) ↔
      ∀ index ∈ indexes, Sound schema config index) ∧
    (∀ snapshot, (compile schema (config.withPolicy .warn) indexes).outcome = .ok snapshot →
      (∃ strict, compile schema (config.withPolicy .reject) (Index.kept indexes) =
          ⟨[], .ok strict⟩ ∧ snapshot.SameContents strict) ∧
      snapshot.catalog.indexes = Index.kept indexes ∧
      (Index.kept indexes ++ Index.leftOut indexes).Perm indexes ∧
      List.Forall₂ (DroppedIndex.Reports (Index.kept indexes))
        (compile schema (config.withPolicy .warn) indexes).dropped (Index.leftOut indexes) ∧
      ∀ index, snapshot.catalog.collision? index = none ↔
        ∀ other ∈ Index.kept indexes, other.entity ≠ index.entity ∧ other.name ≠ index.name) ∧
    (compile schema (config.withPolicy .warn) (indexes ++ indexes)).outcome =
      (compile schema (config.withPolicy .warn) indexes).outcome ∧
    ((∃ strict, (compile schema (config.withPolicy .reject) indexes).outcome = .ok strict) ↔
      (∃ snapshot, (compile schema (config.withPolicy .warn) indexes).outcome = .ok snapshot) ∧
        Index.leftOut indexes = []) ∧
    (∀ snapshot strict,
      (compile schema (config.withPolicy .warn) indexes).outcome = .ok snapshot →
      (compile schema (config.withPolicy .reject) indexes).outcome = .ok strict →
      snapshot.SameContents strict) := by
  have hlenient : ∀ {strict : Snapshot},
      (compile schema (config.withPolicy .reject) indexes).outcome = .ok strict →
      compile schema (config.withPolicy .warn) indexes = ⟨[], .ok (strict.withPolicy .warn)⟩ :=
    fun hstrict => compile_withPolicy (compile_reject_eq hstrict) .warn
  refine ⟨exists_compile_warn_eq_ok hvalid, fun snapshot hsnapshot => ?_,
    outcome_compile_warn_append_self hvalid indexes, ⟨?_, ?_⟩, ?_⟩
  · obtain ⟨hkept, hdropped⟩ := contents_of_compile_warn hsnapshot
    have hstrict := compile_withPolicy (compile_indexes hsnapshot) .reject
    rw [hkept] at hstrict
    refine ⟨⟨_, hstrict, snapshot.sameContents_withPolicy .reject⟩, hkept,
      Index.perm_keptAfter_append_leftOutAfter [] indexes, hdropped, fun index => ?_⟩
    have hconsistent := (reflects_of_compile hsnapshot).catalog
    simp only [hconsistent.collision?_eq_none, hkept, Index.Clashes, not_or, ne_eq]
  · rintro ⟨strict, hstrict⟩
    have hsnapshot := congrArg Build.outcome (hlenient hstrict)
    have hdropped := (contents_of_compile_warn hsnapshot).2
    rw [hlenient hstrict] at hdropped
    exact ⟨⟨_, hsnapshot⟩, List.forall₂_nil_left_iff.mp hdropped⟩
  · rintro ⟨⟨snapshot, hsnapshot⟩, hleft⟩
    have hdropped := (contents_of_compile_warn hsnapshot).2
    rw [hleft] at hdropped
    have hwarn : compile schema (config.withPolicy .warn) indexes = ⟨[], .ok snapshot⟩ := by
      rw [← hsnapshot, ← List.forall₂_nil_right_iff.mp hdropped]
    exact ⟨_, congrArg Build.outcome (compile_withPolicy hwarn .reject)⟩
  · intro snapshot strict hsnapshot hstrict
    rw [hlenient hstrict] at hsnapshot
    cases hsnapshot
    exact ⟨rfl, rfl, rfl⟩

end Compilation

namespace Shop

/-- The second definition has the name of the first, the third the entity type of the second and the
last one the entity type of the first and the name of the third. -/
def clashing : List Definition :=
  [⟨"Order", none, ["number", "buyer"], [], []⟩,
    ⟨"Customer", some "search_index_order", ["name"], [], []⟩,
    ⟨"Customer", some "people", ["company.name"], [], []⟩,
    ⟨"Order", some "people", ["buyer.name"], [], []⟩]

def clashingIndexes : List Index :=
  (clashing.mapM (schema.indexOf Config.standard)).toOption.getD []

def lenient : Snapshot :=
  (Compilation.compile schema (Config.standard.withPolicy .warn)
    clashingIndexes).outcome.toOption.getD default

theorem outcome_clashingIndexes :
    (Compilation.compile schema (Config.standard.withPolicy .warn) clashingIndexes).outcome =
      .ok lenient := by rfl

end Shop

/-- The third index is kept, as the second one is left out and blocks nothing. -/
theorem Compilation.compile_policies_agree_shop :
    Config.standard.fault? = none ∧
      (Index.kept Shop.clashingIndexes).map Index.name = ["search_index_order", "people"] ∧
      (Index.leftOut Shop.clashingIndexes).map Index.name = ["search_index_order", "people"] ∧
      ∃ strict, compile Shop.schema (Config.standard.withPolicy .reject)
          (Index.kept Shop.clashingIndexes) = ⟨[], .ok strict⟩ ∧
        Shop.lenient.SameContents strict := by
  have hvalid : Config.standard.fault? = none := by rfl
  obtain ⟨_, hcontents, _⟩ := @compile_policies_agree Shop.schema _ hvalid Shop.clashingIndexes
  obtain ⟨hstrict, _⟩ := hcontents Shop.lenient Shop.outcome_clashingIndexes
  exact ⟨hvalid, by rfl, by rfl, hstrict⟩

end Reindex
