import Reindex.Dependency.Buckets
import Reindex.Proofs.Table

namespace Reindex.Buckets

variable {κ : Type} [Ord κ] [Std.TransOrd κ] {buckets : Buckets κ}

theorem mem_under {key : κ} {path : Path} :
    path ∈ buckets.under key ↔ path ∈ buckets.getD key ∅ :=
  Std.ExtTreeSet.mem_toList

theorem nodup_under (buckets : Buckets κ) (key : κ) : (buckets.under key).Nodup :=
  Table.nodup_toList _

theorem ordered_under (buckets : Buckets κ) (key : κ) :
    (buckets.under key).Pairwise (fun path other => compare path other = .lt) :=
  Std.ExtTreeSet.ordered_toList

theorem ordered_groups (buckets : Buckets κ) :
    buckets.groups.Pairwise (fun group other => compare group.1 other.1 = .lt) :=
  List.Pairwise.map _ (fun _ _ h => h) Std.ExtTreeMap.ordered_keys_toList

theorem under_eq_nil_iff {key : κ} : buckets.under key = [] ↔ buckets.getD key ∅ = ∅ := by
  constructor
  · intro h
    refine Std.ExtTreeSet.ext_mem fun path => ?_
    rw [← mem_under, h]
    simp
  · intro h
    simp [under, h]

theorem not_mem_under_empty (key : κ) (path : Path) : path ∉ (∅ : Buckets κ).under key := by
  simp [mem_under]

variable [Std.LawfulEqOrd κ]

theorem mem_under_add [DecidableEq κ] (buckets : Buckets κ) (key other : κ) (path back : Path) :
    back ∈ (buckets.add key path).under other ↔
      key = other ∧ path = back ∨ back ∈ buckets.under other := by
  rw [mem_under, mem_under, add, Table.getD_insert]
  split
  · next heq => simp [heq]
  · next hne => simp [hne]

/-- No key stands over an empty bucket. -/
abbrev Filled (buckets : Buckets κ) : Prop := Table.Avoids buckets ∅

theorem Filled.add [DecidableEq κ] (h : Filled buckets) (key : κ) (path : Path) :
    Filled (buckets.add key path) :=
  Table.Avoids.insert h key Std.ExtTreeSet.insert_ne_empty

theorem Filled.mem_iff (h : Filled buckets) {key : κ} :
    key ∈ buckets ↔ ∃ path, path ∈ buckets.under key := by
  rw [Table.Avoids.mem_iff h, ne_eq, ← under_eq_nil_iff]
  exact ⟨List.exists_mem_of_ne_nil _, fun ⟨_, hpath⟩ => List.ne_nil_of_mem hpath⟩

/-- Without empty buckets, the paths under each key tell two tables apart. -/
theorem Filled.ext {other : Buckets κ} (h : Filled buckets) (hother : Filled other)
    (hsame : ∀ key path, path ∈ buckets.under key ↔ path ∈ other.under key) : buckets = other := by
  refine Table.Avoids.ext h hother fun key => Std.ExtTreeSet.ext_mem fun path => ?_
  rw [← mem_under, ← mem_under, hsame]

theorem mem_keys_of_mem_under {key : κ} {path : Path} (h : path ∈ buckets.under key) :
    key ∈ buckets.keys := by
  by_cases hkey : key ∈ buckets
  · exact Std.ExtTreeMap.mem_keys.mpr hkey
  · rw [mem_under, Std.ExtTreeMap.getD_eq_fallback hkey] at h
    simp at h

theorem size_eq_sum (buckets : Buckets κ) :
    buckets.size = (buckets.keys.map fun key => (buckets.under key).length).sum := by
  rw [size, Table.foldr_values buckets ∅]
  simp only [under, Std.ExtTreeSet.length_toList]

theorem mem_groups {key : κ} {paths : List Path} :
    (key, paths) ∈ buckets.groups ↔ key ∈ buckets ∧ paths = buckets.under key := by
  simp only [groups, List.mem_map, Prod.mk.injEq, Prod.exists,
    Std.ExtTreeMap.mem_toList_iff_getElem?_eq_some]
  constructor
  · rintro ⟨_, bucket, hbucket, rfl, rfl⟩
    refine ⟨by simp [← Std.ExtTreeMap.isSome_getElem?_iff_mem, hbucket], ?_⟩
    rw [under, Std.ExtTreeMap.getD_eq_getD_getElem?, hbucket, Option.getD_some]
  · rintro ⟨hkey, rfl⟩
    exact ⟨key, buckets.getD key ∅, Std.ExtTreeMap.getElem?_eq_some_getD hkey, rfl, rfl⟩

theorem Filled.ne_nil_of_mem_groups (h : Filled buckets) :
    ∀ group ∈ buckets.groups, group.2 ≠ [] := by
  rintro ⟨key, paths⟩ hgroup
  obtain ⟨hkey, rfl⟩ := mem_groups.mp hgroup
  obtain ⟨path, hpath⟩ := h.mem_iff.mp hkey
  exact List.ne_nil_of_mem hpath

end Reindex.Buckets
