import Reindex.Proofs.Change.Gate
import Reindex.Proofs.Dependency.Refusal
import Reindex.Proofs.Mapping.Rearranged
import Reindex.Proofs.Repetition

namespace Reindex

namespace Catalog.Consistent

variable {catalog other : Catalog} (h : catalog.Consistent) (hother : other.Consistent)
  (hperm : catalog.indexes.Perm other.indexes)
include h hother hperm

theorem byEntity_perm : catalog.byEntity = other.byEntity :=
  h.byEntity.ext hother.byEntity fun _ => hperm.mem_iff

theorem byName_perm : catalog.byName = other.byName :=
  h.byName.ext hother.byName fun _ => hperm.mem_iff

theorem isDirectlyIndexed_perm (entity : EntityName) :
    catalog.isDirectlyIndexed entity = other.isDirectlyIndexed entity := by
  rw [isDirectlyIndexed, isDirectlyIndexed, h.byEntity_perm hother hperm]

end Catalog.Consistent

namespace Snapshot

variable {schema : Schema} {snapshot other : Snapshot}

theorem effectivePaths_perm (schema : Schema)
    (hperm : snapshot.catalog.indexes.Perm other.catalog.indexes) :
    (snapshot.effectivePaths schema).Perm (other.effectivePaths schema) :=
  hperm.flatMap_right _

namespace Reflects

variable (h : snapshot.Reflects schema) (hother : other.Reflects schema)
  (hperm : snapshot.catalog.indexes.Perm other.catalog.indexes)
include h hother hperm

theorem registry_perm : snapshot.registry = other.registry := by
  have hpaths := effectivePaths_perm schema hperm
  apply h.filled.ext hother.filled
  · intro fact
    simp only [h.mem_updateFacts, hother.mem_updateFacts, hpaths.mem_iff]
  · intro fact
    simp only [h.mem_deletionFacts, hother.mem_deletionFacts, hpaths.mem_iff]

theorem isAffected_perm (entity : EntityName) :
    snapshot.catalog.isAffected entity = other.catalog.isAffected entity := by
  have hpaths := effectivePaths_perm schema hperm
  rw [Bool.eq_iff_iff, Catalog.isAffected_iff, Catalog.isAffected_iff]
  simp only [h.affected, hother.affected, hperm.mem_iff, hpaths.mem_iff]

end Reflects

/-- Plans depend on the registry and on what is affected and indexed, and on nothing else. -/
theorem plan_congr (hregistry : snapshot.registry = other.registry)
    (haffected : ∀ entity, snapshot.catalog.isAffected entity = other.catalog.isAffected entity)
    (hindexed : ∀ entity,
      snapshot.catalog.isDirectlyIndexed entity = other.catalog.isDirectlyIndexed entity)
    (changes : List Change) : snapshot.plan changes = other.plan changes := by
  have hrequests : ∀ change, snapshot.requestsOf change = other.requestsOf change := by
    intro change
    rw [requestsOf_eq_ite, requestsOf_eq_ite, haffected]
    cases change <;> simp only [ungatedRequestsOf, ownRequest, impactOfUpdate, impactOfDelete,
      hregistry, hindexed]
  simp only [plan_eq, funext hrequests]

end Snapshot

namespace Compilation

variable {schema : Schema} {config : Config} {indexes others : List Index} {snapshot : Snapshot}

theorem indexes_compileFrom {start : Snapshot} (hconsistent : start.catalog.Consistent)
    (hapart : (start.catalog.indexes ++ indexes).Pairwise fun index other => ¬index.Clashes other)
    (h : (compileFrom schema config start indexes).outcome = .ok snapshot) :
    snapshot.catalog.indexes = start.catalog.indexes ++ indexes := by
  induction indexes generalizing start with
  | nil =>
    cases h
    rw [List.append_nil]
  | cons index indexes ih =>
    have hfree : start.catalog.collision? index = none :=
      hconsistent.collision?_eq_none.mpr fun other hother =>
        (List.pairwise_append.mp hapart).2.2 other hother index List.mem_cons_self
    rw [List.append_cons] at hapart ⊢
    obtain ⟨_, ⟨_, h⟩ | ⟨hclash, _⟩⟩ := compileFrom_cons_eq_ok.mp h
    · exact ih (consistent_registered hconsistent hfree) hapart h
    · simp [hfree] at hclash

theorem mapM_indexOf_of_compileDefinitions {definitions : List Definition}
    (hentities : (definitions.map Definition.entity).Nodup)
    (hnames : (definitions.map (Definition.nameUnder config)).Nodup)
    (h : (compileDefinitions schema config definitions).outcome = .ok snapshot) :
    definitions.mapM (schema.indexOf config) = .ok snapshot.catalog.indexes := by
  obtain ⟨indexes, hindexes, hcompile⟩ := compileDefinitions_eq_ok.mp h
  have hapart : indexes.Pairwise fun index other => ¬index.Clashes other := by
    apply Index.nodup_map_iff_pairwise.mp
    rw [Schema.entities_of_mapM_indexOf hindexes, Schema.names_of_mapM_indexOf hindexes]
    exact ⟨hentities, hnames⟩
  have hregistered : snapshot.catalog.indexes = (blank config).catalog.indexes ++ indexes :=
    indexes_compileFrom (.empty _) hapart (compile_eq_ok.mp hcompile).2
  rw [hindexes, hregistered]
  rfl

theorem exists_compile_perm (hperm : indexes.Perm others)
    (h : ∃ snapshot, (compile schema config indexes).outcome = .ok snapshot) :
    ∃ snapshot, (compile schema config others).outcome = .ok snapshot := by
  have hentities : (indexes.map Index.entity).Nodup ↔ (others.map Index.entity).Nodup :=
    (hperm.map _).nodup_iff
  have hnames : (indexes.map Index.name).Nodup ↔ (others.map Index.name).Nodup :=
    (hperm.map _).nodup_iff
  rw [exists_compile_eq_ok, exists_compile_eq_error] at h ⊢
  simpa only [hperm.mem_iff, hentities, hnames] using h

theorem exists_compileDefinitions_rearranged {definitions reordered : List Definition}
    (hreordered : Definition.Rearranged definitions reordered)
    (h : ∃ snapshot, (compileDefinitions schema config definitions).outcome = .ok snapshot) :
    ∃ snapshot, (compileDefinitions schema config reordered).outcome = .ok snapshot := by
  obtain ⟨snapshot, hsnapshot⟩ := h
  obtain ⟨indexes, hindexes, hcompile⟩ := compileDefinitions_eq_ok.mp hsnapshot
  obtain ⟨others, hothers, hperm⟩ := Schema.mapM_indexOf_of_rearranged hreordered hindexes
  obtain ⟨other, hother⟩ := exists_compile_perm hperm ⟨snapshot, hcompile⟩
  exact ⟨other, compileDefinitions_eq_ok.mpr ⟨others, hothers, hother⟩⟩

/-- Definitions of distinct entity types and index names are sets: if they are permuted, and the
paths and fields that each of them lists are permuted or repeated, they compile if they did before,
and all answers and plans stay the same. -/
theorem compileDefinitions_rearranged {definitions reordered : List Definition}
    (hreordered : Definition.Rearranged definitions reordered)
    (hentities : (definitions.map Definition.entity).Nodup)
    (hnames : (definitions.map (Definition.nameUnder config)).Nodup) :
    ((∃ snapshot, (compileDefinitions schema config definitions).outcome = .ok snapshot) ↔
      ∃ snapshot, (compileDefinitions schema config reordered).outcome = .ok snapshot) ∧
    ∀ snapshot other, (compileDefinitions schema config definitions).outcome = .ok snapshot →
      (compileDefinitions schema config reordered).outcome = .ok other →
      snapshot.registry = other.registry ∧
      (∀ entity, snapshot.catalog.isAffected entity = other.catalog.isAffected entity) ∧
      (∀ entity,
        snapshot.catalog.isDirectlyIndexed entity = other.catalog.isDirectlyIndexed entity) ∧
      (∀ entity, snapshot.catalog.byEntity? entity = other.catalog.byEntity? entity) ∧
      (∀ name, snapshot.catalog.byName? name = other.catalog.byName? name) ∧
      ∀ changes, snapshot.plan changes = other.plan changes := by
  refine ⟨⟨exists_compileDefinitions_rearranged hreordered,
    exists_compileDefinitions_rearranged hreordered.symm⟩, ?_⟩
  intro snapshot other hsnapshot hother
  have hentities' : (reordered.map Definition.entity).Nodup :=
    (hreordered.map_perm Definition.Rearranges.entity).nodup_iff.mp hentities
  have hnames' : (reordered.map (Definition.nameUnder config)).Nodup :=
    (hreordered.map_perm fun hsame => hsame.nameUnder_eq config).nodup_iff.mp hnames
  have hindexes := mapM_indexOf_of_compileDefinitions hentities hnames hsnapshot
  have hperm : snapshot.catalog.indexes.Perm other.catalog.indexes := by
    obtain ⟨others, hothers, hperm⟩ := Schema.mapM_indexOf_of_rearranged hreordered hindexes
    rw [mapM_indexOf_of_compileDefinitions hentities' hnames' hother] at hothers
    rwa [Except.ok.inj hothers]
  have hreflects : snapshot.Reflects schema := Snapshot.reflects_of_compileDefinitions hsnapshot
  have hreflects' : other.Reflects schema := Snapshot.reflects_of_compileDefinitions hother
  have hregistry := hreflects.registry_perm hreflects' hperm
  have haffected := hreflects.isAffected_perm hreflects' hperm
  have hindexed := hreflects.catalog.isDirectlyIndexed_perm hreflects'.catalog hperm
  refine ⟨hregistry, haffected, hindexed, fun entity => ?_, fun name => ?_,
    Snapshot.plan_congr hregistry haffected hindexed⟩
  · rw [Catalog.byEntity?, Catalog.byEntity?,
      hreflects.catalog.byEntity_perm hreflects'.catalog hperm]
  · rw [Catalog.byName?, Catalog.byName?, hreflects.catalog.byName_perm hreflects'.catalog hperm]

end Compilation

namespace Shop

def listings : List Definition :=
  [⟨"Order", none, ["*", "buyer.*"], ["buyer.referrers"], [⟨"label", "number"⟩]⟩,
    ⟨"Customer", some "people", ["name", "referrers.name"], [], []⟩]

def relistings : List Definition :=
  [⟨"Customer", some "people", ["referrers.name", "name", "referrers.name"], [], []⟩,
    ⟨"Order", none, ["buyer.*", "*"], ["buyer.referrers", "buyer.referrers"],
      [⟨"label", "number"⟩]⟩]

def listed : Snapshot :=
  (Compilation.compileDefinitions schema Config.standard listings).outcome.toOption.getD default

theorem outcome_listings :
    (Compilation.compileDefinitions schema Config.standard listings).outcome = .ok listed := by rfl

theorem rearranged_listings : Definition.Rearranged listings relistings := by
  refine ⟨listings.reverse, (List.reverse_perm listings).symm, ?_⟩
  refine .cons ⟨rfl, rfl, ?_, ?_, ?_⟩ (.cons ⟨rfl, rfl, ?_, ?_, ?_⟩ .nil)
  all_goals simp [or_comm]

end Shop

theorem Compilation.compileDefinitions_rearranged_shop :
    Definition.Rearranged Shop.listings Shop.relistings ∧
      (Shop.listings.map Definition.entity).Nodup ∧
      (Shop.listings.map (Definition.nameUnder Config.standard)).Nodup ∧
      ∃ other, (compileDefinitions Shop.schema Config.standard Shop.relistings).outcome =
          .ok other ∧
        Shop.listed.plan [.updated "Customer" "c1" ["company", "name"]] =
          other.plan [.updated "Customer" "c1" ["company", "name"]] := by
  have hentities : (Shop.listings.map Definition.entity).Nodup := by decide
  have hnames : (Shop.listings.map (Definition.nameUnder Config.standard)).Nodup := by decide
  obtain ⟨hcompile, hanswers⟩ := @compileDefinitions_rearranged Shop.schema Config.standard _ _
    Shop.rearranged_listings hentities hnames
  obtain ⟨other, hother⟩ := hcompile.mp ⟨_, Shop.outcome_listings⟩
  obtain ⟨_, _, _, _, _, hplan⟩ := hanswers _ other Shop.outcome_listings hother
  exact ⟨Shop.rearranged_listings, hentities, hnames, other, hother, hplan _⟩

end Reindex
