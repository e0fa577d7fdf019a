import Reindex.Change.Tracker
import Reindex.Proofs.Dependency.Impact

namespace Reindex.Snapshot

variable {schema : Schema} {snapshot : Snapshot}

theorem gather_eq (planned : List Request) (changes : List Change) :
    snapshot.gather planned changes =
      match changes.find? (fun change => change.id == "") with
      | some change => .error (.invalidEvent (.missingId change.entity))
      | none => .ok (planned ++ changes.flatMap snapshot.requestsOf) := by
  induction changes generalizing planned with
  | nil => simp [gather]
  | cons change changes ih =>
    rw [gather, List.find?_cons]
    split
    · next hid => simp [hid]
    · next hid => simp [hid, ih]

/-- The first change without instance id decides the error. -/
theorem plan_eq (changes : List Change) : snapshot.plan changes =
    match changes.find? (fun change => change.id == "") with
    | some change => .error (.invalidEvent (.missingId change.entity))
    | none => .ok (changes.flatMap snapshot.requestsOf).eraseDups := by
  rw [plan, gather_eq, List.nil_append]
  cases changes.find? (fun change => change.id == "") <;> rfl

theorem plan_eq_ok {changes : List Change} (h : ∀ change ∈ changes, change.id ≠ "") :
    snapshot.plan changes = .ok (changes.flatMap snapshot.requestsOf).eraseDups := by
  have hfind : changes.find? (fun change => change.id == "") = none := by
    simpa using h
  simp only [plan_eq, hfind]

theorem mem_dependents {impact : Impact} {entity : EntityName} {id : String} {request : Request} :
    request ∈ dependents impact entity id ↔ ∃ root back, impact.Lists root back ∧
      back.hops ≠ [] ∧ request = Request.ofDependents root back entity id := by
  simp only [dependents, Impact.Lists, List.mem_flatMap, List.mem_map, List.mem_filter,
    Path.isEmpty, Bool.not_eq_true', List.isEmpty_eq_false_iff]
  constructor
  · rintro ⟨⟨root, paths⟩, hgroup, back, ⟨hback, hne⟩, rfl⟩
    exact ⟨root, back, ⟨paths, hgroup, hback⟩, hne, rfl⟩
  · rintro ⟨root, back, ⟨paths, hgroup, hback⟩, hne, rfl⟩
    exact ⟨⟨root, paths⟩, hgroup, back, ⟨hback, hne⟩, rfl⟩

theorem mem_ownRequest {entity : EntityName} {id : String} {operation : Operation}
    {request : Request} :
    request ∈ snapshot.ownRequest entity id operation ↔
      snapshot.catalog.isDirectlyIndexed entity = true ∧
        request = Request.ofInstance entity id operation := by
  unfold ownRequest
  split <;> simp [*]

theorem mem_requestsOf_updated {entity : EntityName} {id : String} {properties : List String}
    {request : Request} :
    request ∈ snapshot.requestsOf (.updated entity id properties) ↔
      snapshot.catalog.isAffected entity = true ∧
        (request ∈ snapshot.ownRequest entity id .index ∨
          request ∈ dependents (snapshot.impactOfUpdate entity properties) entity id) := by
  unfold requestsOf
  cases h : snapshot.catalog.isAffected entity <;> simp [h, Change.entity]

theorem mem_requestsOf_deleted {entity : EntityName} {id : String} {request : Request} :
    request ∈ snapshot.requestsOf (.deleted entity id) ↔
      snapshot.catalog.isAffected entity = true ∧
        (request ∈ snapshot.ownRequest entity id .delete ∨
          request ∈ dependents (snapshot.impactOfDelete entity) entity id) := by
  unfold requestsOf
  cases h : snapshot.catalog.isAffected entity <;> simp [h, Change.entity]

namespace Reflects

variable (h : snapshot.Reflects schema)
include h

theorem isAffected_of_mem_targets {path : Path} (hpath : path ∈ snapshot.effectivePaths schema)
    {entity : EntityName} (hentity : entity ∈ path.targets) :
    snapshot.catalog.isAffected entity = true :=
  Catalog.isAffected_iff.mpr ((h.affected entity).mpr (Or.inr ⟨path, hpath, hentity⟩))

variable (hbuilt : ∀ index ∈ snapshot.catalog.indexes, index.IsBuilt)
include hbuilt

theorem isAffected_of_isDirectlyIndexed {entity : EntityName}
    (hentity : snapshot.catalog.isDirectlyIndexed entity = true) :
    snapshot.catalog.isAffected entity = true := by
  obtain ⟨index, hindex, rfl⟩ := h.catalog.isDirectlyIndexed_iff.mp hentity
  refine Catalog.isAffected_iff.mpr ((h.affected _).mpr (Or.inl ⟨index, hindex, ?_⟩))
  exact ((hbuilt index hindex).consistent.affected _).mpr (Or.inl rfl)

/-- Every hop of a chained effective path is owned by an affected type. -/
theorem isAffected_owner {path : Path} (hpath : path ∈ snapshot.effectivePaths schema)
    (hchained : path.IsChained) {hop : Property} (hhop : hop ∈ path.hops) :
    snapshot.catalog.isAffected hop.owner = true := by
  rcases Path.owner_eq_or_mem_targets hchained hhop with howner | htarget
  · obtain ⟨index, hindex, hroot, _⟩ := reads_of_mem_effectivePaths hbuilt hpath
    rw [howner, ← hroot]
    exact h.isAffected_of_isDirectlyIndexed hbuilt
      (h.catalog.isDirectlyIndexed_iff.mpr ⟨index, hindex, rfl⟩)
  · exact h.isAffected_of_mem_targets hpath htarget

theorem ofDependents_mem_requestsOf_updated {path : Path}
    (hpath : path ∈ snapshot.effectivePaths schema) (hchained : path.IsChained) {i : Nat}
    {hop : Property} (hhop : path.hops[i]? = some hop) (hi : i ≠ 0) {properties : List String}
    (hname : hop.name ∈ properties) (id : String) :
    Request.ofDependents path.root (path.take i) hop.owner id ∈
      snapshot.requestsOf (.updated hop.owner id properties) := by
  have haffected := h.isAffected_owner hbuilt hpath hchained (List.mem_of_getElem? hhop)
  refine mem_requestsOf_updated.mpr ⟨haffected, Or.inr (mem_dependents.mpr ?_)⟩
  refine ⟨path.root, path.take i, Impact.lists_iff.mpr (mem_under_impactOfUpdate.mpr ⟨?_, rfl⟩),
    ?_, rfl⟩
  · exact ⟨hop.name, hname, (h.mem_updateFacts _).mpr ⟨path, hpath, i, hop, hhop, rfl⟩⟩
  · have hne : path.hops ≠ [] := List.ne_nil_of_mem (List.mem_of_getElem? hhop)
    simp [Path.take, hi, hne]

omit hbuilt in
theorem ofDependents_mem_requestsOf_deleted {path : Path}
    (hpath : path ∈ snapshot.effectivePaths schema) {i : Nat} {hop : Property}
    (hhop : path.hops[i]? = some hop) {entity : EntityName}
    (htarget : hop.range.target? = some entity) (id : String) :
    Request.ofDependents path.root (path.take (i + 1)) entity id ∈
      snapshot.requestsOf (.deleted entity id) := by
  have hmem : hop ∈ path.hops := List.mem_of_getElem? hhop
  have haffected := h.isAffected_of_mem_targets hpath
    (List.mem_filterMap.mpr ⟨hop, hmem, htarget⟩)
  refine mem_requestsOf_deleted.mpr ⟨haffected, Or.inr (mem_dependents.mpr ?_)⟩
  refine ⟨path.root, path.take (i + 1),
    Impact.lists_iff.mpr (mem_under_impactOfDelete.mpr ⟨?_, rfl⟩), ?_, rfl⟩
  · exact (h.mem_deletionFacts _).mpr ⟨path, hpath, i, hop, hhop, htarget, rfl⟩
  · simp [Path.take, List.ne_nil_of_mem hmem]

theorem ofInstance_mem_requestsOf_updated {entity : EntityName}
    (hentity : snapshot.catalog.isDirectlyIndexed entity = true) (id : String)
    (properties : List String) :
    Request.ofInstance entity id .index ∈ snapshot.requestsOf (.updated entity id properties) :=
  mem_requestsOf_updated.mpr ⟨h.isAffected_of_isDirectlyIndexed hbuilt hentity,
    Or.inl (mem_ownRequest.mpr ⟨hentity, rfl⟩)⟩

theorem ofInstance_mem_requestsOf_deleted {entity : EntityName}
    (hentity : snapshot.catalog.isDirectlyIndexed entity = true) (id : String) :
    Request.ofInstance entity id .delete ∈ snapshot.requestsOf (.deleted entity id) :=
  mem_requestsOf_deleted.mpr ⟨h.isAffected_of_isDirectlyIndexed hbuilt hentity,
    Or.inl (mem_ownRequest.mpr ⟨hentity, rfl⟩)⟩

end Reflects

end Reindex.Snapshot

namespace Reindex.Shop

def tracker : Tracker (Queue Request) := ⟨.first snapshot, .queue, .empty⟩

end Reindex.Shop
