import Mathlib.Data.Finset.Lattice.Lemmas
import Reindex.Proofs.Change.Gate
import Reindex.Proofs.Repetition

namespace Reindex.Snapshot

variable {snapshot : Snapshot}

/-- The plan of the first part comes first, and so does its error. -/
theorem plan_append (xs ys : List Change) :
    snapshot.plan (xs ++ ys) =
      (do
        let former ← snapshot.plan xs
        let latter ← snapshot.plan ys
        return (former ++ latter).eraseDups) := by
  simp only [plan_eq]
  rw [List.find?_append]
  cases xs.find? (fun change => change.id == "") with
  | some change => rfl
  | none =>
    cases ys.find? (fun change => change.id == "") with
    | some change => rfl
    | none =>
      rw [Option.none_or, List.flatMap_append, ← Repetition.eraseDups_append_eraseDups]
      rfl

theorem mem_under_impactOfUpdate_append {entity root : EntityName} {properties others : List String}
    {back : Path} :
    back ∈ (snapshot.impactOfUpdate entity (properties ++ others)).under root ↔
      back ∈ (snapshot.impactOfUpdate entity properties).under root ∨
        back ∈ (snapshot.impactOfUpdate entity others).under root := by
  simp only [mem_under_impactOfUpdate, List.mem_append, or_and_right, exists_or]

theorem mem_roots_impactOfUpdate {entity root : EntityName} {properties : List String} :
    root ∈ (snapshot.impactOfUpdate entity properties).roots ↔
      ∃ back, back ∈ (snapshot.impactOfUpdate entity properties).under root :=
  Impact.mem_roots_ofPaths

theorem impactOfUpdate_congr {properties others : List String}
    (hsame : ∀ name, name ∈ properties ↔ name ∈ others) (entity : EntityName) :
    snapshot.impactOfUpdate entity properties = snapshot.impactOfUpdate entity others := by
  refine Buckets.Filled.ext (Impact.filled_ofPaths _) (Impact.filled_ofPaths _) fun root back => ?_
  simp only [mem_under_impactOfUpdate, hsame]

theorem mem_dependents_append {entity : EntityName} {id : String} {properties others : List String}
    {request : Request} :
    request ∈ dependents (snapshot.impactOfUpdate entity (properties ++ others)) entity id ↔
      request ∈ dependents (snapshot.impactOfUpdate entity properties) entity id ∨
        request ∈ dependents (snapshot.impactOfUpdate entity others) entity id := by
  simp only [mem_dependents, Impact.lists_iff, mem_under_impactOfUpdate_append, or_and_right,
    exists_or]

theorem mem_requestsOf_updated_append {entity : EntityName} {id : String}
    {properties others : List String} {request : Request} :
    request ∈ snapshot.requestsOf (.updated entity id (properties ++ others)) ↔
      request ∈ snapshot.requestsOf (.updated entity id properties) ∨
        request ∈ snapshot.requestsOf (.updated entity id others) := by
  simp only [mem_requestsOf_updated, mem_dependents_append]
  tauto

theorem requestsOf_updated_congr {properties others : List String}
    (hsame : ∀ name, name ∈ properties ↔ name ∈ others) (entity : EntityName) (id : String) :
    snapshot.requestsOf (.updated entity id properties) =
      snapshot.requestsOf (.updated entity id others) := by
  rw [requestsOf_eq_ite, requestsOf_eq_ite, ungatedRequestsOf, ungatedRequestsOf,
    impactOfUpdate_congr hsame]
  rfl

theorem plan_replace {xs ys : List Change} (h : snapshot.plan xs = snapshot.plan ys)
    (before after : List Change) :
    snapshot.plan (before ++ xs ++ after) = snapshot.plan (before ++ ys ++ after) := by
  simp only [plan_append, h]

theorem plan_updated_congr {properties others : List String}
    (hsame : ∀ name, name ∈ properties ↔ name ∈ others) (entity : EntityName) (id : String) :
    snapshot.plan [.updated entity id properties] = snapshot.plan [.updated entity id others] := by
  have hrequests : snapshot.requestsOf (.updated entity id properties) =
      snapshot.requestsOf (.updated entity id others) := requestsOf_updated_congr hsame entity id
  simp only [plan_eq, List.find?_cons, List.find?_nil, Change.id, List.flatMap_cons, hrequests]
  cases id == "" <;> rfl

section Sets

variable {xs ys : List Change}

theorem map_toFinset_plan_append (xs ys : List Change) :
    (snapshot.plan (xs ++ ys)).map List.toFinset =
      (do
        let former ← (snapshot.plan xs).map List.toFinset
        let latter ← (snapshot.plan ys).map List.toFinset
        return former ∪ latter) := by
  rw [plan_append]
  cases snapshot.plan xs with
  | error error => rfl
  | ok former =>
    cases snapshot.plan ys with
    | error error => rfl
    | ok latter =>
      have hunion : (former ++ latter).eraseDups.toFinset = former.toFinset ∪ latter.toFinset := by
        rw [Repetition.toFinset_eraseDups, List.toFinset_append]
      exact congrArg Except.ok hunion

/-- Parts of a batch may be replaced by others that are planned as the same set. -/
theorem map_toFinset_plan_replace
    (h : (snapshot.plan xs).map List.toFinset = (snapshot.plan ys).map List.toFinset)
    (before after : List Change) :
    (snapshot.plan (before ++ xs ++ after)).map List.toFinset =
      (snapshot.plan (before ++ ys ++ after)).map List.toFinset := by
  simp only [map_toFinset_plan_append, h]

theorem map_toFinset_plan_updated_append (entity : EntityName) (id : String)
    (properties others : List String) :
    (snapshot.plan [.updated entity id (properties ++ others)]).map List.toFinset =
      (snapshot.plan [.updated entity id properties, .updated entity id others]).map
        List.toFinset := by
  have hset : (snapshot.requestsOf (.updated entity id (properties ++ others))).toFinset =
      (snapshot.requestsOf (.updated entity id properties) ++
        snapshot.requestsOf (.updated entity id others)).toFinset := by
    ext request
    simp only [List.mem_toFinset, List.mem_append, mem_requestsOf_updated_append]
  rw [plan_eq, plan_eq]
  by_cases hid : id = ""
  · simp [Change.id, Change.entity, hid]
  · simp [Change.id, hid, Except.map, Repetition.toFinset_eraseDups, hset]

end Sets

/-- The plan of two batches in one holds the plan of the first, and then what the plan of the second
adds. Documents that depend on several properties are those that depend on some of them, root by
root. So an update may be split into updates of some of its properties each, and it does not matter
how often or in which order the properties are given. -/
theorem plan_split_merge (snapshot : Snapshot) :
    (∀ xs ys : List Change, (∀ change ∈ xs ++ ys, change.id ≠ "") →
      ∃ former latter, snapshot.plan xs = .ok former ∧ snapshot.plan ys = .ok latter ∧
        snapshot.plan (xs ++ ys) = .ok (former ++ latter).eraseDups) ∧
    (∀ entity properties others root,
      (root ∈ (snapshot.impactOfUpdate entity (properties ++ others)).roots ↔
        root ∈ (snapshot.impactOfUpdate entity properties).roots ∨
          root ∈ (snapshot.impactOfUpdate entity others).roots) ∧
      ∀ back, back ∈ (snapshot.impactOfUpdate entity (properties ++ others)).under root ↔
        back ∈ (snapshot.impactOfUpdate entity properties).under root ∨
          back ∈ (snapshot.impactOfUpdate entity others).under root) ∧
    (∀ before after entity id properties others,
      (snapshot.plan (before ++ [.updated entity id (properties ++ others)] ++ after)).map
          List.toFinset =
        (snapshot.plan (before ++ [.updated entity id properties, .updated entity id others] ++
          after)).map List.toFinset) ∧
    (∀ before after entity id properties others, (∀ name, name ∈ properties ↔ name ∈ others) →
      snapshot.plan (before ++ [.updated entity id properties] ++ after) =
        snapshot.plan (before ++ [.updated entity id others] ++ after)) := by
  refine ⟨fun xs ys hids => ?_, fun entity properties others root => ⟨?_, fun back => ?_⟩,
    fun before after entity id properties others => ?_,
    fun before after entity id properties others hsame => ?_⟩
  · obtain ⟨hxs, hys⟩ := List.forall_mem_append.mp hids
    have hformer : snapshot.plan xs = .ok (xs.flatMap snapshot.requestsOf).eraseDups :=
      plan_eq_ok hxs
    have hlatter : snapshot.plan ys = .ok (ys.flatMap snapshot.requestsOf).eraseDups :=
      plan_eq_ok hys
    refine ⟨_, _, hformer, hlatter, ?_⟩
    rw [plan_append, hformer, hlatter]
    rfl
  · rw [mem_roots_impactOfUpdate, mem_roots_impactOfUpdate, mem_roots_impactOfUpdate, ← exists_or]
    simp only [mem_under_impactOfUpdate_append]
  · exact mem_under_impactOfUpdate_append
  · exact map_toFinset_plan_replace (map_toFinset_plan_updated_append entity id properties others)
      before after
  · exact plan_replace (plan_updated_congr hsame entity id) before after

theorem plan_split_merge_shop :
    (∃ former latter, Shop.snapshot.plan [.updated "Customer" "c1" ["company"]] = .ok former ∧
      Shop.snapshot.plan [.created "Order" "o1", .updated "Customer" "c1" ["company"]] =
        .ok latter ∧
      Shop.snapshot.plan ([.updated "Customer" "c1" ["company"]] ++
        [.created "Order" "o1", .updated "Customer" "c1" ["company"]]) =
          .ok (former ++ latter).eraseDups) ∧
      Shop.snapshot.plan ([.created "Order" "o1"] ++
        [.updated "Customer" "c1" ["name", "company", "name"]] ++ []) =
      Shop.snapshot.plan ([.created "Order" "o1"] ++
        [.updated "Customer" "c1" ["company", "name"]] ++ []) := by
  obtain ⟨hmerge, _, _, hrepeat⟩ := plan_split_merge Shop.snapshot
  refine ⟨hmerge _ _ (by decide), hrepeat _ _ _ _ _ _ fun name => ?_⟩
  simp only [List.mem_cons, List.not_mem_nil, or_false]
  tauto

end Reindex.Snapshot
