import Reindex.Path

namespace Reindex.Path

variable {owner target reached : EntityName} {hop : Property} {hops : List Property} {path : Path}

def extend (path : Path) (hops : List Property) : Path := ⟨path.root, path.hops ++ hops⟩

@[simp]
theorem extend_nil (path : Path) : path.extend [] = path := by
  simp [extend]

theorem extend_cons (path : Path) (hop : Property) (hops : List Property) :
    path.extend (hop :: hops) = (path.child hop).extend hops := by
  simp [extend, child]

theorem extend_append (path : Path) (hops more : List Property) :
    path.extend (hops ++ more) = (path.extend hops).extend more := by
  simp [extend]

theorem extend_concat (path : Path) (hops : List Property) (hop : Property) :
    path.extend (hops ++ [hop]) = (path.extend hops).child hop := by
  simp [extend, child]

theorem child_inj {other : Path} {last : Property} :
    path.child hop = other.child last ↔ path = other ∧ hop = last := by
  obtain ⟨root, hops⟩ := path
  obtain ⟨root', hops'⟩ := other
  simp [child, and_assoc]

theorem exists_eq_child (h : path.hops ≠ []) : ∃ (before : Path) (hop : Property),
    path = before.child hop := by
  obtain ⟨root, hops⟩ := path
  obtain ⟨before, hop, rfl⟩ := (List.eq_nil_or_concat hops).resolve_left h
  exact ⟨⟨root, before⟩, hop, by simp [child]⟩

/-- Every path is made from its root by adding hops. -/
theorem child_induction {motive : Path → Prop} (root : ∀ name, motive (ofRoot name))
    (child : ∀ path hop, motive path → motive (path.child hop)) (path : Path) : motive path := by
  have hextend : ∀ (hops : List Property) (before : Path), motive before →
      motive (before.extend hops) := by
    intro hops
    induction hops with
    | nil =>
      intro before h
      rwa [extend_nil]
    | cons hop hops ih =>
      intro before h
      rw [extend_cons]
      exact ih _ (child before hop h)
  exact hextend path.hops (ofRoot path.root) (root path.root)

theorem startsWith_iff_hops {other : Path} :
    path.startsWith other = true ↔ path.root = other.root ∧ other.hops <+: path.hops := by
  rw [startsWith, Bool.and_eq_true, beq_iff_eq, List.isPrefixOf_iff_prefix]

theorem startsWith_iff {other : Path} :
    path.startsWith other = true ↔ ∃ rest, path = other.extend rest := by
  obtain ⟨root, hops⟩ := path
  rw [startsWith_iff_hops]
  constructor
  · rintro ⟨rfl, rest, rfl⟩
    exact ⟨rest, rfl⟩
  · rintro ⟨rest, h⟩
    rw [extend, mk.injEq] at h
    exact ⟨h.1, rest, h.2.symm⟩

theorem range?_bind_target? :
    path.range?.bind Range.target? = some target ↔
      path.hops ≠ [] ∧ path.reached? = some target := by
  obtain ⟨root, hops⟩ := path
  rcases List.eq_nil_or_concat hops with rfl | ⟨first, last, rfl⟩
  · simp [range?, last?]
  · simp [range?, reached?, last?]

theorem reached?_child (path : Path) (hop : Property) :
    (path.child hop).reached? = hop.range.target? := by
  simp [reached?, last?, child]

theorem reached?_cons (htarget : hop.range.target? = some target) :
    (Path.mk owner (hop :: hops)).reached? = (Path.mk target hops).reached? := by
  cases hops with
  | nil => exact htarget
  | cons second hops =>
    obtain ⟨last, hlast⟩ := Option.isSome_iff_exists.mp
      (List.getLast?_isSome.mpr (List.cons_ne_nil second hops))
    simp [reached?, last?, List.getLast?_cons_cons, hlast]

theorem length_child (path : Path) (hop : Property) :
    (path.child hop).length = path.length + 1 := by
  simp [length, child]

theorem take_length (path : Path) : path.take path.length = path := by
  simp [take, length]

theorem take_child {count : Nat} (h : count ≤ path.length) (hop : Property) :
    (path.child hop).take count = path.take count := by
  rw [take, child, List.take_append_of_le_length h, take]

theorem child_take {i : Nat} (hhop : path.hops[i]? = some hop) :
    (path.take i).child hop = path.take (i + 1) := by
  simp [take, child, List.take_add_one, hhop]

theorem hop_iff_extend {back : Path} :
    (∃ i, path.hops[i]? = some hop ∧ back = path.take i) ↔
      ∃ rest, path = (back.child hop).extend rest := by
  constructor
  · rintro ⟨i, hhop, rfl⟩
    refine ⟨path.hops.drop (i + 1), ?_⟩
    rw [child_take hhop, extend, take, List.take_append_drop]
  · rintro ⟨rest, rfl⟩
    refine ⟨back.hops.length, ?_, ?_⟩
    · simp [extend, child]
    · simp [extend, child, take]

theorem hop_extend {i : Nat} (hhop : path.hops[i]? = some hop) (rest : List Property) :
    (path.extend rest).hops[i]? = some hop ∧ (path.extend rest).take i = path.take i ∧
      (path.extend rest).take (i + 1) = path.take (i + 1) := by
  have hi : i < path.hops.length := (List.getElem?_eq_some_iff.mp hhop).1
  refine ⟨?_, ?_, ?_⟩
  · rw [extend, List.getElem?_append_left hi, hhop]
  · rw [take, extend, List.take_append_of_le_length (Nat.le_of_lt hi), take]
  · rw [take, extend, List.take_append_of_le_length hi, take]

theorem mem_targets : target ∈ path.targets ↔
    ∃ hop ∈ path.hops, hop.range.target? = some target :=
  List.mem_filterMap

theorem chainedFrom_cons :
    chainedFrom owner (hop :: hops) = true ↔ hop.owner = owner ∧
      match hop.range.target? with
      | some target => chainedFrom target hops = true
      | none => hops = [] := by
  rw [chainedFrom, Bool.and_eq_true, beq_iff_eq]
  cases hop.range.target? <;> simp

/-- On a chained path each hop is owned by the root or by a type that a reference leads to. -/
theorem owner_eq_or_mem_targets (h : chainedFrom owner hops = true) (hhop : hop ∈ hops) :
    hop.owner = owner ∨ hop.owner ∈ hops.filterMap (fun hop => hop.range.target?) := by
  induction hops generalizing owner with
  | nil => simp at hhop
  | cons first hops ih =>
    obtain ⟨howner, hrest⟩ := chainedFrom_cons.mp h
    rcases List.mem_cons.mp hhop with rfl | hhop
    · exact Or.inl howner
    · cases htarget : first.range.target? with
      | none =>
        have hnil : hops = [] := by simpa [htarget] using hrest
        simp [hnil] at hhop
      | some target =>
        have hrest : chainedFrom target hops = true := by simpa [htarget] using hrest
        right
        rcases ih hrest hhop with howner | hmem
        · simp [htarget, howner]
        · simp [htarget, hmem]

theorem IsChained.child (h : path.IsChained) (hreached : path.reached? = some reached)
    (howner : hop.owner = reached) : (path.child hop).IsChained := by
  obtain ⟨owner, hops⟩ := path
  change chainedFrom owner (hops ++ [hop]) = true
  change chainedFrom owner hops = true at h
  induction hops generalizing owner with
  | nil =>
    cases hreached
    rw [List.nil_append, chainedFrom_cons]
    cases htarget : hop.range.target? <;> simp [chainedFrom, howner]
  | cons first hops ih =>
    obtain ⟨hfirst, hrest⟩ := chainedFrom_cons.mp h
    rw [List.cons_append, chainedFrom_cons]
    refine ⟨hfirst, ?_⟩
    cases htarget : first.range.target? with
    | none =>
      have hnil : hops = [] := by simpa [htarget] using hrest
      simp [hnil, reached?, last?, htarget] at hreached
    | some target =>
      rw [reached?_cons htarget] at hreached
      exact ih target hreached (by simpa [htarget] using hrest)

theorem chainedFrom_take {i : Nat} (h : chainedFrom owner hops = true)
    (hhop : hops[i]? = some hop) :
    chainedFrom owner (hops.take i) = true ∧
      (Path.mk owner (hops.take i)).reached? = some hop.owner := by
  induction hops generalizing owner i with
  | nil => simp at hhop
  | cons first hops ih =>
    obtain ⟨hfirst, hrest⟩ := chainedFrom_cons.mp h
    cases i with
    | zero =>
      cases hhop
      exact ⟨rfl, congrArg some hfirst.symm⟩
    | succ i =>
      rw [List.getElem?_cons_succ] at hhop
      cases htarget : first.range.target? with
      | none =>
        have hnil : hops = [] := by simpa [htarget] using hrest
        simp [hnil] at hhop
      | some target =>
        have hrest : chainedFrom target hops = true := by simpa [htarget] using hrest
        obtain ⟨hchained, hreached⟩ := ih hrest hhop
        rw [List.take_succ_cons, reached?_cons htarget, chainedFrom_cons, htarget]
        exact ⟨⟨hfirst, hchained⟩, hreached⟩

theorem IsChained.take {i : Nat} (h : path.IsChained) (hhop : path.hops[i]? = some hop) :
    (path.take i).IsChained :=
  (chainedFrom_take h hhop).1

theorem IsChained.reached?_take {i : Nat} (h : path.IsChained) (hhop : path.hops[i]? = some hop) :
    (path.take i).reached? = some hop.owner :=
  (chainedFrom_take h hhop).2

theorem IsChained.take_succ {i : Nat} (h : path.IsChained) (hhop : path.hops[i]? = some hop) :
    (path.take (i + 1)).IsChained := by
  rw [← child_take hhop]
  exact (h.take hhop).child (h.reached?_take hhop) rfl

theorem reached?_take_succ {i : Nat} (hhop : path.hops[i]? = some hop) :
    (path.take (i + 1)).reached? = hop.range.target? := by
  rw [← child_take hhop, reached?_child]

end Reindex.Path
