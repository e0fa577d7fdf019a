import Mathlib.Data.List.Forall2
import Mathlib.Data.List.Perm.Basic

namespace Reindex.Result

variable {ε α β : Type}

theorem bind_eq_ok {x : Except ε α} {f : α → Except ε β} {b : β} :
    x >>= f = .ok b ↔ ∃ a, x = .ok a ∧ f a = .ok b := by
  cases x <;> simp [bind, Except.bind]

theorem map_eq_ok {x : Except ε α} {f : α → β} {b : β} :
    x.map f = .ok b ↔ ∃ a, x = .ok a ∧ f a = b := by
  cases x <;> simp [Except.map]

theorem bind_eq_error {x : Except ε α} {f : α → Except ε β} {error : ε} :
    x >>= f = .error error ↔ x = .error error ∨ ∃ a, x = .ok a ∧ f a = .error error := by
  cases x <;> simp [bind, Except.bind]

theorem map_eq_error {x : Except ε α} {f : α → β} {error : ε} :
    x.map f = .error error ↔ x = .error error := by
  cases x <;> simp [Except.map]

theorem mapM_eq_ok {f : α → Except ε β} {xs : List α} {ys : List β} :
    xs.mapM f = .ok ys ↔ List.Forall₂ (fun x y => f x = .ok y) xs ys := by
  induction xs generalizing ys with
  | nil => simp [pure, Except.pure, eq_comm]
  | cons x xs ih =>
    rw [List.mapM_cons, bind_eq_ok, List.forall₂_cons_left_iff]
    constructor
    · rintro ⟨y, hy, h⟩
      obtain ⟨rest, hrest, h⟩ := bind_eq_ok.mp h
      cases h
      exact ⟨y, rest, hy, ih.mp hrest, rfl⟩
    · rintro ⟨y, rest, hy, hrest, rfl⟩
      exact ⟨y, hy, bind_eq_ok.mpr ⟨rest, ih.mpr hrest, rfl⟩⟩

theorem exists_mapM_eq_ok {f : α → Except ε β} {xs : List α} :
    (∃ ys, xs.mapM f = .ok ys) ↔ ∀ x ∈ xs, ∃ y, f x = .ok y := by
  induction xs with
  | nil => simp [pure, Except.pure]
  | cons x xs ih =>
    rw [List.forall_mem_cons, ← ih]
    simp only [mapM_eq_ok, List.forall₂_cons_left_iff]
    constructor
    · rintro ⟨_, y, ys, hy, hys, rfl⟩
      exact ⟨⟨y, hy⟩, ys, hys⟩
    · rintro ⟨⟨y, hy⟩, ys, hys⟩
      exact ⟨_, y, ys, hy, hys, rfl⟩

theorem exists_eq_error {x : Except ε α} : (∃ error, x = .error error) ↔ ¬∃ a, x = .ok a := by
  cases x <;> simp

theorem exists_mapM_eq_error {f : α → Except ε β} {xs : List α} :
    (∃ error, xs.mapM f = .error error) ↔ ∃ x ∈ xs, ∃ error, f x = .error error := by
  simp only [exists_eq_error, exists_mapM_eq_ok]
  push Not
  rfl

theorem mem_mapM {f : α → Except ε β} {xs : List α} {ys : List β} (h : xs.mapM f = .ok ys)
    {y : β} : y ∈ ys ↔ ∃ x ∈ xs, f x = .ok y := by
  have hall := mapM_eq_ok.mp h
  clear h
  induction hall with
  | nil => simp
  | cons hxy _ ih =>
    rw [List.mem_cons, List.exists_mem_cons_iff, hxy, Except.ok.injEq]
    exact or_congr eq_comm ih

theorem exists_of_mem_mapM {f : α → Except ε β} {xs : List α} {ys : List β}
    (h : xs.mapM f = .ok ys) {y : β} (hy : y ∈ ys) : ∃ x ∈ xs, f x = .ok y :=
  (mem_mapM h).mp hy

/-- The first element that is refused decides the error of a traversal. -/
theorem mapM_eq_error {f : α → Except ε β} {xs : List α} {error : ε} :
    xs.mapM f = .error error ↔ ∃ before x after, xs = before ++ x :: after ∧
      (∀ y ∈ before, ∃ z, f y = .ok z) ∧ f x = .error error := by
  induction xs with
  | nil => simp [pure, Except.pure]
  | cons first xs ih =>
    rw [List.mapM_cons, bind_eq_error]
    constructor
    · rintro (hfirst | ⟨y, hy, hrest⟩)
      · exact ⟨[], first, xs, rfl, by simp, hfirst⟩
      · rcases bind_eq_error.mp hrest with hrest | ⟨_, _, hpure⟩
        · obtain ⟨before, x, after, rfl, hbefore, hx⟩ := ih.mp hrest
          exact ⟨first :: before, x, after, rfl,
            List.forall_mem_cons.mpr ⟨⟨y, hy⟩, hbefore⟩, hx⟩
        · cases hpure
    · rintro ⟨before, x, after, hxs, hbefore, hx⟩
      cases before with
      | nil =>
        obtain ⟨rfl, _⟩ := List.cons.inj hxs
        exact Or.inl hx
      | cons other before =>
        obtain ⟨rfl, rfl⟩ := List.cons.inj hxs
        obtain ⟨⟨y, hy⟩, hbefore⟩ := List.forall_mem_cons.mp hbefore
        have hrest := ih.mpr ⟨before, x, after, rfl, hbefore, hx⟩
        exact Or.inr ⟨y, hy, bind_eq_error.mpr (Or.inl hrest)⟩

theorem mapM_append_eq_error {f : α → Except ε β} {xs others : List α} {error : ε} :
    (xs ++ others).mapM f = .error error ↔
      xs.mapM f = .error error ∨ ∃ ys, xs.mapM f = .ok ys ∧ others.mapM f = .error error := by
  rw [List.mapM_append, bind_eq_error]
  refine or_congr_right (exists_congr fun ys => and_congr_right fun _ => ?_)
  rw [bind_eq_error]
  simp [pure, Except.pure]

theorem foldlM_eq_error {σ : Type} {f : σ → α → Except ε σ} {start : σ} {xs : List α} {error : ε} :
    xs.foldlM f start = .error error ↔ ∃ before x after middle, xs = before ++ x :: after ∧
      before.foldlM f start = .ok middle ∧ f middle x = .error error := by
  induction xs generalizing start with
  | nil => simp [pure, Except.pure]
  | cons first xs ih =>
    rw [List.foldlM_cons, bind_eq_error]
    constructor
    · rintro (hfirst | ⟨next, hnext, hrest⟩)
      · exact ⟨[], first, xs, start, rfl, rfl, hfirst⟩
      · obtain ⟨before, x, after, middle, rfl, hmiddle, hx⟩ := ih.mp hrest
        refine ⟨first :: before, x, after, middle, rfl, ?_, hx⟩
        rw [List.foldlM_cons, bind_eq_ok]
        exact ⟨next, hnext, hmiddle⟩
    · rintro ⟨before, x, after, middle, hxs, hmiddle, hx⟩
      cases before with
      | nil =>
        obtain ⟨rfl, _⟩ := List.cons.inj hxs
        cases hmiddle
        exact Or.inl hx
      | cons other before =>
        obtain ⟨rfl, rfl⟩ := List.cons.inj hxs
        rw [List.foldlM_cons, bind_eq_ok] at hmiddle
        obtain ⟨next, hnext, hmiddle⟩ := hmiddle
        exact Or.inr ⟨next, hnext, ih.mpr ⟨before, x, after, middle, rfl, hmiddle, hx⟩⟩

theorem flatten_mapM_congr {f : α → Except ε (List β)} {xs others : List α} {ys : List β}
    (hsame : ∀ x, x ∈ xs ↔ x ∈ others) (h : (xs.mapM f).map List.flatten = .ok ys) :
    ∃ zs, (others.mapM f).map List.flatten = .ok zs ∧ ∀ z, z ∈ ys ↔ z ∈ zs := by
  obtain ⟨lists, hlists, rfl⟩ := map_eq_ok.mp h
  have hall := exists_mapM_eq_ok.mp ⟨lists, hlists⟩
  obtain ⟨lists', hlists'⟩ := exists_mapM_eq_ok.mpr fun x hx => hall x ((hsame x).mpr hx)
  refine ⟨_, map_eq_ok.mpr ⟨lists', hlists', rfl⟩, fun z => ?_⟩
  simp only [List.mem_flatten, mem_mapM hlists, mem_mapM hlists', hsame]

theorem mapM_perm {f : α → Except ε β} {xs others : List α} {ys : List β}
    (hperm : xs.Perm others) (h : xs.mapM f = .ok ys) :
    ∃ zs, others.mapM f = .ok zs ∧ ys.Perm zs := by
  obtain ⟨zs, hall, hzs⟩ := List.perm_comp_forall₂ hperm.symm (mapM_eq_ok.mp h)
  exact ⟨zs, mapM_eq_ok.mpr hall, hzs.symm⟩

theorem mapM_of_forall₂ {r : α → α → Prop} {f : α → Except ε β} {xs others : List α} {ys : List β}
    (hstep : ∀ {x other y}, r x other → f x = .ok y → f other = .ok y)
    (hothers : List.Forall₂ r xs others) (h : xs.mapM f = .ok ys) : others.mapM f = .ok ys := by
  rw [mapM_eq_ok] at h ⊢
  induction hothers generalizing ys with
  | nil =>
    cases h
    exact .nil
  | cons hx _ ih =>
    cases h with
    | cons hy hrest => exact .cons (hstep hx hy) (ih hrest)

theorem mapM_map_eq_some {f : β → Option α} {g : α → β} (h : ∀ x, f (g x) = some x)
    (xs : List α) : (xs.map g).mapM f = some xs := by
  have hpure : f ∘ g = fun x => pure x := funext h
  rw [List.mapM_map, hpure, List.mapM_pure, List.map_id']
  rfl

theorem map_of_mapM {γ : Type} {f : α → Except ε β} {g : β → γ} {key : α → γ} {xs : List α}
    {ys : List β} (hkey : ∀ {x y}, f x = .ok y → g y = key x) (h : xs.mapM f = .ok ys) :
    ys.map g = xs.map key := by
  have hkeys : xs.map key = ys.map g := by
    rw [← List.forall₂_eq_eq_eq, List.forall₂_map_left_iff, List.forall₂_map_right_iff]
    exact (mapM_eq_ok.mp h).imp fun _ _ hxy => (hkey hxy).symm
  exact hkeys.symm

theorem findSome?_flatMap {γ : Type} (xs : List α) (g : α → List β) (f : β → Option γ) :
    (xs.flatMap g).findSome? f = xs.findSome? (fun x => (g x).findSome? f) := by
  induction xs with
  | nil => rfl
  | cons x xs ih =>
    rw [List.flatMap_cons, List.findSome?_append, List.findSome?_cons, ih]
    cases (g x).findSome? f <;> rfl

/-- In an ordered list the least element with a result decides. -/
theorem findSome?_eq_some_of_pairwise {r : α → α → Prop} {xs : List α} {f : α → Option β} {y : β}
    (hasymm : ∀ {x z}, r x z → ¬r z x) (hordered : xs.Pairwise r) :
    xs.findSome? f = some y ↔ ∃ x ∈ xs, f x = some y ∧ ∀ z ∈ xs, r z x → f z = none := by
  rw [List.findSome?_eq_some_iff]
  constructor
  · rintro ⟨before, x, after, rfl, hx, hbefore⟩
    obtain ⟨_, hafter, _⟩ := List.pairwise_append.mp hordered
    refine ⟨x, by simp, hx, fun z hz hlt => ?_⟩
    rcases List.mem_append.mp hz with hz | hz
    · exact hbefore z hz
    · rcases List.mem_cons.mp hz with rfl | hz
      · exact absurd hlt (hasymm hlt)
      · exact absurd hlt (hasymm ((List.pairwise_cons.mp hafter).1 z hz))
  · rintro ⟨x, hx, hfx, hsmaller⟩
    obtain ⟨before, after, rfl⟩ := List.append_of_mem hx
    refine ⟨before, x, after, rfl, hfx, fun z hz => hsmaller z (by simp [hz]) ?_⟩
    exact (List.pairwise_append.mp hordered).2.2 z hz x (by simp)

end Reindex.Result
