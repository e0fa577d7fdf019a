import Mathlib.Algebra.BigOperators.Group.Finset.Basic
import Mathlib.Algebra.GroupWithZero.Nat
import Mathlib.Data.Finset.Dedup
import Mathlib.Data.List.Nodup

namespace Reindex.Repetition

variable {α β : Type} [DecidableEq α]

theorem sublist_eraseDups : ∀ l : List α, l.eraseDups.Sublist l
  | [] => by simp
  | x :: l => by
    rw [List.eraseDups_cons]
    exact ((sublist_eraseDups (l.filter fun y => !y == x)).trans List.filter_sublist).cons_cons x
termination_by l => l.length
decreasing_by exact Nat.lt_succ_of_le (List.length_filter_le _ _)

theorem nodup_eraseDups : ∀ l : List α, l.eraseDups.Nodup
  | [] => by simp
  | x :: l => by
    rw [List.eraseDups_cons, List.nodup_cons]
    refine ⟨fun hx => ?_, nodup_eraseDups (l.filter fun y => !y == x)⟩
    simpa using (List.mem_filter.mp (List.mem_eraseDups.mp hx)).2
termination_by l => l.length
decreasing_by exact Nat.lt_succ_of_le (List.length_filter_le _ _)

theorem eraseDups_filter (p : α → Bool) :
    ∀ l : List α, (l.filter p).eraseDups = l.eraseDups.filter p
  | [] => rfl
  | x :: l => by
    have hrest := eraseDups_filter p (l.filter fun y => !y == x)
    rw [List.eraseDups_cons]
    by_cases hx : p x = true
    · rw [List.filter_cons_of_pos hx, List.filter_cons_of_pos hx, List.eraseDups_cons, ← hrest,
        List.filter_filter, List.filter_filter]
      simp only [Bool.and_comm]
    · have hout : ∀ y ∈ l, (p y && !y == x) = p y := by
        intro y _
        by_cases hy : y = x
        · simp [hy, hx]
        · simp [hy]
      rw [List.filter_cons_of_neg hx, List.filter_cons_of_neg hx, ← hrest, List.filter_filter,
        List.filter_congr hout]
termination_by l => l.length
decreasing_by exact Nat.lt_succ_of_le (List.length_filter_le _ _)

/-- Of a second list only what is new follows the first one. -/
theorem eraseDups_append (xs ys : List α) :
    (xs ++ ys).eraseDups = xs.eraseDups ++ ys.eraseDups.filter (fun y => y ∉ xs) := by
  rw [List.eraseDups_append, List.removeAll, eraseDups_filter]
  congr 2
  funext y
  simp

theorem eraseDups_of_nodup {l : List α} (h : l.Nodup) : l.eraseDups = l := by
  induction l with
  | nil => rfl
  | cons x l ih =>
    obtain ⟨hx, hl⟩ := List.nodup_cons.mp h
    have hkept : l.filter (fun y => !y == x) = l := by
      rw [List.filter_eq_self]
      intro y hy
      simpa using fun hyx : y = x => hx (hyx ▸ hy)
    rw [List.eraseDups_cons, hkept, ih hl]

theorem eraseDups_append_eraseDups (xs ys : List α) :
    (xs.eraseDups ++ ys.eraseDups).eraseDups = (xs ++ ys).eraseDups := by
  rw [eraseDups_append, eraseDups_append, eraseDups_of_nodup (nodup_eraseDups xs),
    eraseDups_of_nodup (nodup_eraseDups ys)]
  simp only [List.mem_eraseDups]

theorem length_eq_length_eraseDups {l others : List α} (hl : l.Nodup)
    (hsame : ∀ x, x ∈ l ↔ x ∈ others) : l.length = others.eraseDups.length := by
  apply List.Perm.length_eq
  rw [List.perm_ext_iff_of_nodup hl (nodup_eraseDups others)]
  intro x
  rw [hsame, List.mem_eraseDups]

theorem sum_map_of_subset {l others : List α} (hl : l.Nodup) (hothers : others.Nodup) {f : α → Nat}
    (hsub : ∀ x ∈ l, x ∈ others) (hzero : ∀ x ∈ others, x ∉ l → f x = 0) :
    (l.map f).sum = (others.map f).sum := by
  rw [← List.sum_toFinset f hl, ← List.sum_toFinset f hothers]
  apply Finset.sum_subset
  · intro x hx
    exact List.mem_toFinset.mpr (hsub x (List.mem_toFinset.mp hx))
  · intro x hx hout
    exact hzero x (List.mem_toFinset.mp hx) fun hmem => hout (List.mem_toFinset.mpr hmem)

theorem toFinset_eraseDups (l : List α) : l.eraseDups.toFinset = l.toFinset := by
  ext x
  simp

section Keys

variable {κ : Type}

theorem nodup_flatMap_key (key : β → κ) {keys : List κ} {group : κ → List β} (hkeys : keys.Nodup)
    (hgroups : ∀ k ∈ keys, (group k).Nodup) (hkey : ∀ k, ∀ y ∈ group k, key y = k) :
    (keys.flatMap group).Nodup := by
  rw [List.nodup_flatMap]
  refine ⟨hgroups, hkeys.imp fun {k other} hne => ?_⟩
  intro y hy hother
  exact hne ((hkey k y hy).symm.trans (hkey other y hother))

variable [DecidableEq κ] {key : β → κ} {l : List β} {x : β}

theorem find?_key_eq_some (hnodup : (l.map key).Nodup) {k : κ} :
    l.find? (fun y => key y == k) = some x ↔ x ∈ l ∧ key x = k := by
  constructor
  · intro h
    exact ⟨List.mem_of_find?_eq_some h, by simpa using List.find?_some h⟩
  · rintro ⟨hx, rfl⟩
    have hsome : (l.find? fun y => key y == key x).isSome :=
      List.find?_isSome.mpr ⟨x, hx, beq_self_eq_true (key x)⟩
    obtain ⟨y, hy⟩ := Option.isSome_iff_exists.mp hsome
    have hkey : key y = key x := by simpa using List.find?_some hy
    rw [hy, List.inj_on_of_nodup_map hnodup (List.mem_of_find?_eq_some hy) hx hkey]

end Keys

end Reindex.Repetition
