import Mathlib.Algebra.GroupWithZero.Nat
import Std.Data.ExtTreeMap
import Std.Data.ExtTreeSet

namespace Reindex.Table

variable {κ ν : Type} [Ord κ] [Std.TransOrd κ]

theorem values_eq_map_toList (table : Std.ExtTreeMap κ ν) :
    table.values = table.toList.map Prod.snd := by
  have hfold : table.values = table.foldr (fun _ value values => value :: values) [] := by
    obtain ⟨inner⟩ := table
    induction inner with
    | mk tree => rfl
  rw [hfold, Std.ExtTreeMap.foldr_eq_foldr_toList, List.map_eq_foldr]

theorem mem_values [Std.LawfulEqOrd κ] (table : Std.ExtTreeMap κ ν) (value : ν) :
    value ∈ table.values ↔ ∃ key : κ, table[key]? = some value := by
  simp [values_eq_map_toList]

theorem getElem?_insert [Std.LawfulEqOrd κ] [DecidableEq κ] (table : Std.ExtTreeMap κ ν)
    (key other : κ) (value : ν) :
    (table.insert key value)[other]? = if key = other then some value else table[other]? := by
  simp [Std.ExtTreeMap.getElem?_insert]

theorem insert_comm [Std.LawfulEqOrd κ] [DecidableEq κ] {key other : κ} (hne : key ≠ other)
    (table : Std.ExtTreeMap κ ν) (x y : ν) :
    (table.insert key x).insert other y = (table.insert other y).insert key x := by
  refine Std.ExtTreeMap.ext_getElem? fun name => ?_
  simp only [getElem?_insert]
  by_cases hkey : key = name
  · have hother : other ≠ name := fun h => hne (hkey.trans h.symm)
    simp [hkey, hother]
  · simp [hkey]

theorem getElem?_insertMany_toList [Std.LawfulEqOrd κ] [BEq κ] [Std.LawfulBEqOrd κ]
    (table upper : Std.ExtTreeMap κ ν) (key : κ) :
    (table.insertMany upper.toList)[key]? = upper[key]?.or table[key]? := by
  cases hvalue : upper[key]? with
  | some value =>
    exact Std.ExtTreeMap.getElem?_insertMany_list_of_mem Std.ReflCmp.compare_self
      Std.ExtTreeMap.distinct_keys_toList
      (Std.ExtTreeMap.mem_toList_iff_getElem?_eq_some.mpr hvalue)
  | none =>
    refine Std.ExtTreeMap.getElem?_insertMany_list_of_contains_eq_false ?_
    have habsent : key ∉ upper := by simp [← Std.ExtTreeMap.isSome_getElem?_iff_mem, hvalue]
    rw [Std.ExtTreeMap.map_fst_toList_eq_keys]
    simpa using habsent

theorem ofList_toList [Std.LawfulEqOrd κ] [BEq κ] [Std.LawfulBEqOrd κ]
    (table : Std.ExtTreeMap κ ν) : Std.ExtTreeMap.ofList table.toList = table := by
  refine Std.ExtTreeMap.ext_getElem? fun key => ?_
  rw [Std.ExtTreeMap.ofList_eq_insertMany_empty, getElem?_insertMany_toList]
  simp

theorem nodup_toList (set : Std.ExtTreeSet κ) : set.toList.Nodup := by
  refine Std.ExtTreeSet.ordered_toList.imp fun hlt heq => ?_
  simp [heq] at hlt

theorem pairwise_lt_toList (names : Std.ExtTreeSet String) :
    names.toList.Pairwise (· < ·) := by
  refine Std.ExtTreeSet.ordered_toList.imp ?_
  intro name other hlt
  exact compareOfLessAndEq_eq_lt.mp hlt

theorem pairwise_lt_keys (table : Std.ExtTreeMap String ν) : table.keys.Pairwise (· < ·) := by
  refine Std.ExtTreeMap.ordered_keys.imp ?_
  intro name other hlt
  exact compareOfLessAndEq_eq_lt.mp hlt

theorem getD_insert [Std.LawfulEqOrd κ] [DecidableEq κ] (table : Std.ExtTreeMap κ ν)
    (key other : κ) (value fallback : ν) :
    (table.insert key value).getD other fallback =
      if key = other then value else table.getD other fallback := by
  simp [Std.ExtTreeMap.getD_insert]

theorem values_eq_map_keys [Std.LawfulEqOrd κ] (table : Std.ExtTreeMap κ ν) (fallback : ν) :
    table.values = table.keys.map fun key => table.getD key fallback := by
  rw [values_eq_map_toList, ← Std.ExtTreeMap.map_fst_toList_eq_keys, List.map_map]
  refine List.map_congr_left fun entry hentry => ?_
  have hvalue := Std.ExtTreeMap.mem_toList_iff_getElem?_eq_some.mp hentry
  rw [Function.comp, Std.ExtTreeMap.getD_eq_getD_getElem?, hvalue, Option.getD_some]

theorem foldr_values [Std.LawfulEqOrd κ] (table : Std.ExtTreeMap κ ν) (fallback : ν)
    (count : ν → Nat) : table.values.foldr (fun value total => count value + total) 0 =
      (table.keys.map fun key => count (table.getD key fallback)).sum := by
  rw [values_eq_map_keys table fallback, List.foldr_map, List.sum, List.foldr_map]

theorem ne_empty_iff [Std.LawfulEqOrd κ] {table : Std.ExtTreeMap κ ν} :
    table ≠ ∅ ↔ ∃ key, key ∈ table.keys := by
  constructor
  · intro h
    obtain ⟨key, hkey⟩ := Option.isSome_iff_exists.mp
      (Std.ExtTreeMap.isSome_minKey?_iff_ne_empty.mpr h)
    exact ⟨key, Std.ExtTreeMap.mem_keys.mpr (Std.ExtTreeMap.minKey?_mem hkey)⟩
  · rintro ⟨key, hkey⟩
    exact Std.ExtTreeMap.ne_empty_of_mem (Std.ExtTreeMap.mem_keys.mp hkey)

/-- No key has the value that a key without entry is read as. -/
def Avoids (table : Std.ExtTreeMap κ ν) (fallback : ν) : Prop :=
  ∀ key : κ, table[key]? ≠ some fallback

namespace Avoids

variable {table other : Std.ExtTreeMap κ ν} {fallback : ν}

theorem empty (fallback : ν) : Avoids (∅ : Std.ExtTreeMap κ ν) fallback := by
  intro key
  simp

theorem insert [Std.LawfulEqOrd κ] [DecidableEq κ] (h : Avoids table fallback) (key : κ)
    {value : ν} (hvalue : value ≠ fallback) : Avoids (table.insert key value) fallback := by
  intro name
  rw [getElem?_insert]
  split
  · exact fun heq => hvalue (Option.some.inj heq)
  · exact h name

theorem mem_iff [Std.LawfulEqOrd κ] (h : Avoids table fallback) {key : κ} :
    key ∈ table ↔ table.getD key fallback ≠ fallback := by
  rw [Std.ExtTreeMap.getD_eq_getD_getElem?, ← Std.ExtTreeMap.isSome_getElem?_iff_mem]
  cases hvalue : table[key]? with
  | none => simp
  | some value =>
    have hne : value ≠ fallback := fun heq => h key (heq ▸ hvalue)
    simpa using hne

theorem getElem?_eq [Std.LawfulEqOrd κ] [DecidableEq ν] (h : Avoids table fallback) (key : κ) :
    table[key]? =
      if table.getD key fallback = fallback then none else some (table.getD key fallback) := by
  rw [Std.ExtTreeMap.getD_eq_getD_getElem?]
  cases hvalue : table[key]? with
  | none => simp
  | some value =>
    have hne : value ≠ fallback := fun heq => h key (heq ▸ hvalue)
    simp [hne]

theorem ext [Std.LawfulEqOrd κ] (h : Avoids table fallback) (hother : Avoids other fallback)
    (hsame : ∀ key, table.getD key fallback = other.getD key fallback) : table = other := by
  classical
  refine Std.ExtTreeMap.ext_getElem? fun key => ?_
  rw [h.getElem?_eq, hother.getElem?_eq, hsame]

end Avoids

/-- The table holds these values, each under its key, and nothing else. -/
def KeyedBy (key : ν → κ) (values : List ν) (table : Std.ExtTreeMap κ ν) : Prop :=
  ∀ name value, table[name]? = some value ↔ value ∈ values ∧ key value = name

namespace KeyedBy

variable {key : ν → κ} {values : List ν} {table : Std.ExtTreeMap κ ν}

theorem empty (key : ν → κ) : KeyedBy key [] ∅ := by
  intro name value
  simp

theorem congr {others : List ν} (h : KeyedBy key values table)
    (hsame : ∀ value, value ∈ values ↔ value ∈ others) : KeyedBy key others table := by
  intro name value
  rw [h name value, hsame]

theorem getElem?_eq_none (h : KeyedBy key values table) {name : κ} :
    table[name]? = none ↔ ∀ value ∈ values, key value ≠ name := by
  simp only [Option.eq_none_iff_forall_ne_some, ne_eq, h name, not_and]

theorem isSome_iff (h : KeyedBy key values table) {name : κ} :
    table[name]?.isSome ↔ ∃ value ∈ values, key value = name := by
  simp only [Option.isSome_iff_exists, h name]

theorem insert [Std.LawfulEqOrd κ] [DecidableEq κ] (h : KeyedBy key values table) {value : ν}
    (hnew : ∀ other ∈ values, key other ≠ key value) :
    KeyedBy key (values ++ [value]) (table.insert (key value) value) := by
  intro name other
  rw [getElem?_insert, List.mem_append, List.mem_singleton]
  split
  · next hname =>
    subst hname
    constructor
    · intro heq
      cases heq
      exact ⟨Or.inr rfl, rfl⟩
    · rintro ⟨hother | rfl, hkey⟩
      · exact absurd hkey (hnew other hother)
      · rfl
  · next hname =>
    rw [h name]
    constructor
    · rintro ⟨hother, hkey⟩
      exact ⟨Or.inl hother, hkey⟩
    · rintro ⟨hother | rfl, hkey⟩
      · exact ⟨hother, hkey⟩
      · exact absurd hkey hname

theorem ext [Std.LawfulEqOrd κ] {others : List ν} {other : Std.ExtTreeMap κ ν}
    (h : KeyedBy key values table) (hother : KeyedBy key others other)
    (hsame : ∀ value, value ∈ values ↔ value ∈ others) : table = other := by
  refine Std.ExtTreeMap.ext_getElem? fun name => Option.ext fun value => ?_
  rw [h name, hother name, hsame]

end KeyedBy

end Reindex.Table
