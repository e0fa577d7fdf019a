import Reindex.Dependency.Expansion
import Reindex.Proofs.Closed

namespace Reindex.Schema

variable {schema : Schema} {declared path : Path}

theorem expand_eq_or_child (h : path ∈ schema.expand declared) :
    path = declared ∨ ∃ target hop, declared.reached? = some target ∧
      hop ∈ schema.identityOf target ∧ path = declared.child hop := by
  unfold expand at h
  cases hrange : declared.range?.bind Range.target? with
  | none =>
    simp only [hrange, List.mem_singleton] at h
    exact Or.inl h
  | some target =>
    cases hidentity : schema.identityOf target with
    | nil =>
      simp only [hrange, hidentity, List.mem_singleton] at h
      exact Or.inl h
    | cons first rest =>
      simp only [hrange, hidentity] at h
      obtain ⟨hop, hhop, rfl⟩ := List.mem_map.mp h
      have hreached := (Path.range?_bind_target?.mp hrange).2
      rw [← hidentity] at hhop
      exact Or.inr ⟨target, hop, hreached, hhop, rfl⟩

theorem child_mem_expand {target : EntityName} {hop : Property}
    (htarget : declared.range?.bind Range.target? = some target)
    (hhop : hop ∈ schema.identityOf target) : declared.child hop ∈ schema.expand declared := by
  unfold expand
  cases hidentity : schema.identityOf target with
  | nil => simp [hidentity] at hhop
  | cons first rest =>
    simp only [htarget, hidentity]
    rw [hidentity] at hhop
    exact List.mem_map_of_mem hhop

theorem expand_eq_map {target : EntityName}
    (htarget : declared.range?.bind Range.target? = some target)
    (hidentity : schema.identityOf target ≠ []) :
    schema.expand declared = (schema.identityOf target).map declared.child := by
  unfold expand
  cases hcases : schema.identityOf target with
  | nil => exact absurd hcases hidentity
  | cons first rest => simp only [htarget, hcases]

theorem expand_eq_singleton (hidentity : ∀ target,
    declared.range?.bind Range.target? = some target → schema.identityOf target = []) :
    schema.expand declared = [declared] := by
  unfold expand
  cases htarget : declared.range?.bind Range.target? with
  | none => rfl
  | some target => simp only [hidentity target htarget]

theorem exists_extend_mem_expand (schema : Schema) (declared : Path) :
    ∃ rest, declared.extend rest ∈ schema.expand declared := by
  cases htarget : declared.range?.bind Range.target? with
  | none =>
    refine ⟨[], ?_⟩
    simp [expand, htarget]
  | some target =>
    cases hidentity : schema.identityOf target with
    | nil =>
      refine ⟨[], ?_⟩
      simp [expand, htarget, hidentity]
    | cons first rest =>
      have hfirst : first ∈ schema.identityOf target := by simp [hidentity]
      exact ⟨[first], child_mem_expand htarget hfirst⟩

/-- A reference is followed into the name of its target where it is declared itself, or where a
declared path goes that way; no other path is expanded so far. -/
theorem exists_extend_child_mem_expand {back : Path} {target : EntityName} {hop : Property}
    (htarget : back.range?.bind Range.target? = some target)
    (hhop : hop ∈ schema.identityOf target) :
    (∃ rest, (back.child hop).extend rest ∈ schema.expand declared) ↔
      declared = back ∨ declared.startsWith (back.child hop) = true := by
  constructor
  · rintro ⟨rest, h⟩
    rcases expand_eq_or_child h with heq | ⟨_, last, _, _, heq⟩
    · exact Or.inr (Path.startsWith_iff.mpr ⟨rest, heq.symm⟩)
    · rcases List.eq_nil_or_concat rest with rfl | ⟨rest, further, rfl⟩
      · rw [Path.extend_nil, Path.child_inj] at heq
        exact Or.inl heq.1.symm
      · rw [List.concat_eq_append, Path.extend_concat, Path.child_inj] at heq
        exact Or.inr (Path.startsWith_iff.mpr ⟨rest, heq.1.symm⟩)
  · rintro (rfl | h)
    · exact ⟨[], by simpa using child_mem_expand htarget hhop⟩
    · obtain ⟨rest, rfl⟩ := Path.startsWith_iff.mp h
      obtain ⟨further, hfurther⟩ :=
        schema.exists_extend_mem_expand ((back.child hop).extend rest)
      rw [← Path.extend_append] at hfurther
      exact ⟨rest ++ further, hfurther⟩

theorem root_of_mem_expand (h : path ∈ schema.expand declared) : path.root = declared.root := by
  rcases expand_eq_or_child h with rfl | ⟨_, _, _, _, rfl⟩
  · rfl
  · rfl

theorem Declares.of_mem_expand (hdeclared : schema.Declares declared)
    (h : path ∈ schema.expand declared) : schema.Declares path := by
  rcases expand_eq_or_child h with rfl | ⟨target, hop, hreached, hhop, rfl⟩
  · exact hdeclared
  · exact hdeclared.child hreached (mem_propertiesOf_of_mem_identityOf hhop)

theorem isChained_of_mem_expand (hchained : declared.IsChained)
    (h : path ∈ schema.expand declared) : path.IsChained := by
  rcases expand_eq_or_child h with rfl | ⟨target, hop, hreached, hhop, rfl⟩
  · exact hchained
  · exact hchained.child hreached (schema.owner_eq (mem_propertiesOf_of_mem_identityOf hhop))

end Reindex.Schema
