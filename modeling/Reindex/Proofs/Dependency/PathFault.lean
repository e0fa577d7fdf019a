import Reindex.Proofs.Dependency.Compiled

namespace Reindex

/-- What tells the properties apart that a path crosses. -/
def Property.crossing (hop : Property) : EntityName × String := (hop.owner, hop.name)

/-- The path respects the length limit and crosses no property twice. -/
structure Path.Sound (config : Config) (path : Path) : Prop where
  short : path.length ≤ config.pathLimit.toNat
  simple : (path.hops.map Property.crossing).Nodup

namespace Compilation

variable {config : Config} {path : Path} {error : TrackingError}

/-- The fault of a path. A cycle is reported at the first hop that crosses a property again. -/
inductive PathFault (config : Config) (path : Path) : TrackingError → Prop
  | tooDeep (hlong : config.pathLimit.toNat < path.length) :
      PathFault config path
        (.pathTooDeep path.root path.dotted path.length config.pathLimit.toNat)
  | cycle {before after : List Property} {hop : Property}
      (hshort : path.length ≤ config.pathLimit.toNat) (hhops : path.hops = before ++ hop :: after)
      (hbefore : (before.map Property.crossing).Nodup)
      (hagain : hop.crossing ∈ before.map Property.crossing) :
      PathFault config path (.mappingCycle path.root path.dotted hop.owner hop.name)

theorem revisited?_cons (seen : List (EntityName × String)) (hop : Property)
    (hops : List Property) :
    revisited? seen (hop :: hops) =
      if hop.crossing ∈ seen then some hop else revisited? (hop.crossing :: seen) hops := rfl

theorem revisited?_eq_none {seen : List (EntityName × String)} {hops : List Property} :
    revisited? seen hops = none ↔
      (∀ hop ∈ hops, hop.crossing ∉ seen) ∧ (hops.map Property.crossing).Nodup := by
  induction hops generalizing seen with
  | nil => simp [revisited?]
  | cons hop hops ih =>
    have hseen : (∀ later ∈ hops, later.crossing ∉ hop.crossing :: seen) ↔
        hop.crossing ∉ hops.map Property.crossing ∧ ∀ later ∈ hops, later.crossing ∉ seen := by
      simp only [List.mem_cons, not_or, List.mem_map, not_exists, not_and]
      exact forall₂_and
    rw [revisited?_cons, List.forall_mem_cons, List.map_cons, List.nodup_cons]
    by_cases hhop : hop.crossing ∈ seen
    · simp [hhop]
    · rw [if_neg hhop, ih, hseen]
      tauto

theorem revisited?_eq_some {seen : List (EntityName × String)} {hops : List Property}
    {hop : Property} :
    revisited? seen hops = some hop ↔ ∃ before after, hops = before ++ hop :: after ∧
      revisited? seen before = none ∧
      (hop.crossing ∈ seen ∨ hop.crossing ∈ before.map Property.crossing) := by
  induction hops generalizing seen with
  | nil => simp [revisited?]
  | cons first hops ih =>
    rw [revisited?_cons]
    by_cases hfirst : first.crossing ∈ seen
    · rw [if_pos hfirst]
      constructor
      · rintro ⟨⟩
        exact ⟨[], hops, rfl, rfl, Or.inl hfirst⟩
      · rintro ⟨before, after, hhops, hnone, _⟩
        cases before with
        | nil => exact congrArg some (List.cons.inj hhops).1
        | cons other before =>
          obtain ⟨rfl, _⟩ := List.cons.inj hhops
          simp [revisited?_cons, hfirst] at hnone
    · rw [if_neg hfirst, ih]
      constructor
      · rintro ⟨before, after, rfl, hnone, hagain⟩
        refine ⟨first :: before, after, rfl, by rw [revisited?_cons, if_neg hfirst, hnone], ?_⟩
        simpa only [List.map_cons, List.mem_cons, or_assoc, or_left_comm] using hagain
      · rintro ⟨before, after, hhops, hnone, hagain⟩
        cases before with
        | nil =>
          obtain ⟨rfl, _⟩ := List.cons.inj hhops
          exact absurd (hagain.resolve_right (by simp)) hfirst
        | cons other before =>
          obtain ⟨rfl, rfl⟩ := List.cons.inj hhops
          rw [revisited?_cons, if_neg hfirst] at hnone
          refine ⟨before, after, rfl, hnone, ?_⟩
          simpa only [List.map_cons, List.mem_cons, or_assoc, or_left_comm] using hagain

theorem pathFault?_eq_none : pathFault? config path = none ↔ path.Sound config := by
  unfold pathFault?
  split
  · next hlong => exact iff_of_false (by simp) fun h => Nat.not_lt.mpr h.short hlong
  · next hshort =>
    rw [Option.map_eq_none_iff, revisited?_eq_none]
    constructor
    · rintro ⟨_, hsimple⟩
      exact ⟨Nat.le_of_not_lt hshort, hsimple⟩
    · intro h
      exact ⟨by simp, h.simple⟩

theorem pathFault?_eq_some : pathFault? config path = some error ↔ PathFault config path error := by
  unfold pathFault?
  split
  · next hlong =>
    constructor
    · rintro ⟨⟩
      exact .tooDeep hlong
    · intro h
      cases h with
      | tooDeep _ => rfl
      | cycle hshort _ _ _ => exact absurd hlong (Nat.not_lt.mpr hshort)
  · next hshort =>
    rw [Option.map_eq_some_iff]
    constructor
    · rintro ⟨hop, hrevisited, rfl⟩
      obtain ⟨before, after, hhops, hnone, hagain⟩ := revisited?_eq_some.mp hrevisited
      exact .cycle (Nat.le_of_not_lt hshort) hhops (revisited?_eq_none.mp hnone).2
        (hagain.resolve_left (by simp))
    · intro h
      cases h with
      | tooDeep hlong => exact absurd hlong hshort
      | cycle _ hhops hbefore hagain =>
        refine ⟨_, revisited?_eq_some.mpr ⟨_, _, hhops, ?_, Or.inr hagain⟩, rfl⟩
        exact revisited?_eq_none.mpr ⟨by simp, hbefore⟩

end Compilation

end Reindex
