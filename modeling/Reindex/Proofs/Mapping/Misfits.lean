import Reindex.Proofs.Chains
import Reindex.Proofs.Mapping.Contents

namespace Reindex

namespace Index

/-- Each field fits the root, and no two of them share their name. -/
structure Agree (root : EntityName) (fields : List Field) : Prop where
  fits : ∀ field ∈ fields, Fits root field
  named : ∀ field ∈ fields, ∀ other ∈ fields, field.name = other.name → field = other

/-- The error of a field that does not go with the root or with the fields given before it. -/
inductive Misfit (root : EntityName) (before : List Field) (field : Field) : TrackingError → Prop
  | empty : field.path.hops = [] → Misfit root before field (.emptyPath root)
  | foreign : field.path.hops ≠ [] → field.path.root ≠ root →
      Misfit root before field (.foreignRoot root field.name field.path.root)
  | conflict {known : Field} : Fits root field → known ∈ before → known.name = field.name →
      known ≠ field → Misfit root before field (.duplicateField root field.name)

variable {root : EntityName} {name : String} {fields : List Field} {field : Field} {index : Index}
  {error : TrackingError}

theorem misfit_or_fits (root : EntityName) (before : List Field) (field : Field) :
    (∃ error, Misfit root before field error) ∨
      Fits root field ∧ ∀ known ∈ before, known.name = field.name → known = field := by
  by_cases hempty : field.path.hops = []
  · exact Or.inl ⟨_, .empty hempty⟩
  · by_cases hroot : field.path.root = root
    · have hfits : Fits root field := ⟨hempty, hroot⟩
      by_cases hname : ∀ known ∈ before, known.name = field.name → known = field
      · exact Or.inr ⟨hfits, hname⟩
      · push Not at hname
        obtain ⟨known, hknown, hsame, hdiffers⟩ := hname
        exact Or.inl ⟨_, .conflict hfits hknown hsame hdiffers⟩
    · exact Or.inl ⟨_, .foreign hempty hroot⟩

theorem Holds.addField_of_misfit (h : index.Holds root name fields)
    (hmisfit : Misfit root fields field error) : index.addField field = .error error := by
  rw [addField, h.entity_eq]
  cases hmisfit with
  | empty hempty => rw [if_pos (by simp [Path.isEmpty, hempty])]
  | foreign hempty hroot => rw [if_neg (by simpa [Path.isEmpty] using hempty), if_pos hroot]
  | @conflict known hfits hknown hname hdiffers =>
    have hempty : ¬field.path.isEmpty = true := by simpa [Path.isEmpty] using hfits.1
    have hfield : index.field? field.name = some known := h.field?.mpr ⟨hknown, hname⟩
    rw [if_neg hempty, if_neg (not_not_intro hfits.2)]
    simp only [field?_affect, hfield, if_neg hdiffers]
    rw [affect, h.entity_eq]

theorem Holds.addField_eq_error (h : index.Holds root name fields) :
    index.addField field = .error error ↔ Misfit root fields field error := by
  constructor
  · intro herror
    rcases misfit_or_fits root fields field with ⟨other, hmisfit⟩ | ⟨hfits, hname⟩
    · rw [h.addField_of_misfit hmisfit, Except.error.injEq] at herror
      exact herror ▸ hmisfit
    · obtain ⟨next, hnext⟩ := h.exists_append hname
      rw [h.addField_eq_ok.mpr ⟨hfits, hnext⟩] at herror
      cases herror
  · exact h.addField_of_misfit

/-- The fields before the first misfit make up an index. -/
theorem ofFields_eq_error :
    ofFields root name fields = .error error ↔ ∃ before field after,
      fields = before ++ field :: after ∧ (∃ index, ofFields root name before = .ok index) ∧
        Misfit root before field error := by
  rw [ofFields, Result.foldlM_eq_error]
  constructor
  · rintro ⟨before, field, after, middle, hfields, hmiddle, herror⟩
    have hholds := (ofFields_eq_ok.mp hmiddle).2
    exact ⟨before, field, after, hfields, ⟨middle, hmiddle⟩, hholds.addField_eq_error.mp herror⟩
  · rintro ⟨before, field, after, hfields, ⟨middle, hmiddle⟩, hmisfit⟩
    have hholds := (ofFields_eq_ok.mp hmiddle).2
    exact ⟨before, field, after, middle, hfields, hmiddle, hholds.addField_eq_error.mpr hmisfit⟩

theorem Agree.not_misfit {before after : List Field}
    (h : Agree root (before ++ field :: after)) : ¬Misfit root before field error := by
  intro hmisfit
  cases hmisfit with
  | empty hempty => exact (h.fits field (by simp)).1 hempty
  | foreign _ hroot => exact hroot (h.fits field (by simp)).2
  | @conflict known _ hknown hname hdiffers =>
    exact hdiffers (h.named known (by simp [hknown]) field (by simp) hname)

theorem exists_ofFields_eq_ok :
    (∃ index, ofFields root name fields = .ok index) ↔ Agree root fields := by
  constructor
  · rintro ⟨index, hindex⟩
    obtain ⟨hfits, hholds⟩ := ofFields_eq_ok.mp hindex
    exact ⟨hfits, fun field hfield other hother => hholds.eq_of_name_eq hfield hother⟩
  · intro hagree
    cases hresult : ofFields root name fields with
    | ok index => exact ⟨index, rfl⟩
    | error error =>
      obtain ⟨before, field, after, rfl, _, hmisfit⟩ := ofFields_eq_error.mp hresult
      exact absurd hmisfit hagree.not_misfit

theorem ofFields_eq_ok_congr {others : List Field}
    (hsame : ∀ field, field ∈ others ↔ field ∈ fields) :
    ofFields root name others = .ok index ↔ ofFields root name fields = .ok index :=
  ⟨ofFields_congr hsame, ofFields_congr fun field => (hsame field).symm⟩

/-- Fields make up an index if and only if each of them takes a hop from the root and those of one
name are equal. The index then holds the given fields, each once under its own name, and affects the
root and the types that their references lead to. Order and repetitions of the fields do not matter,
unless there is no index: then the error is that of the first field that takes no hop, starts
elsewhere or has the name of a different one before it. -/
theorem ofFields_exact (root : EntityName) (name : String) (fields : List Field) :
    ((∃ index, ofFields root name fields = .ok index) ↔
      (∀ field ∈ fields, field.path.hops ≠ [] ∧ field.path.root = root) ∧
      ∀ field ∈ fields, ∀ other ∈ fields, field.name = other.name → field = other) ∧
    (∀ index, ofFields root name fields = .ok index →
      (index.entity = root ∧ index.name = name) ∧
      (∀ key field, index.field? key = some field ↔ field ∈ fields ∧ field.name = key) ∧
      (∀ field, field ∈ index.fieldList ↔ field ∈ fields) ∧ index.fieldList.Nodup ∧
      ∀ other, other ∈ index.affected ↔
        other = root ∨ ∃ field ∈ fields, ∃ hop ∈ field.path.hops, hop.range.target? = some other) ∧
    (∀ others : List Field, (∀ field, field ∈ others ↔ field ∈ fields) → ∀ index,
      ofFields root name others = .ok index ↔ ofFields root name fields = .ok index) ∧
    ∀ error, ofFields root name fields = .error error ↔ ∃ before field after,
      fields = before ++ field :: after ∧ Agree root before ∧ Misfit root before field error := by
  refine ⟨?_, fun index hindex => ?_, fun others hsame index => ofFields_eq_ok_congr hsame,
    fun error => ?_⟩
  · rw [exists_ofFields_eq_ok]
    exact ⟨fun h => ⟨h.fits, h.named⟩, fun h => ⟨h.1, h.2⟩⟩
  · obtain ⟨hfits, hholds⟩ := ofFields_eq_ok.mp hindex
    refine ⟨⟨hholds.entity_eq, hholds.name_eq⟩, fun key field => hholds.field?,
      fun field => hholds.mem_fieldList, (hholds.consistent hfits).nodup_fieldList,
      fun other => ?_⟩
    rw [hholds.affected]
    simp only [Path.mem_targets]
  · rw [ofFields_eq_error]
    simp only [exists_ofFields_eq_ok]

end Index

namespace Orders

def number : Field := .ofPath ⟨"Order", [⟨"Order", "number", .scalar .string⟩]⟩

def buyer : Field := .ofPath ⟨"Order", [⟨"Order", "buyer", .reference "Customer" .one⟩]⟩

end Orders

theorem Index.ofFields_exact_orders :
    (∃ index, ofFields "Order" "orders" [Orders.number, Orders.buyer, Orders.number] = .ok index ∧
      ofFields "Order" "orders" [Orders.buyer, Orders.number] = .ok index ∧
      "Customer" ∈ index.affected) ∧
    ofFields "Order" "orders" [Orders.number, Orders.buyer, ⟨"number", Orders.buyer.path, true⟩] =
      .error (.duplicateField "Order" "number") := by
  constructor
  · obtain ⟨haccepts, hholds, hsame, _⟩ :=
      ofFields_exact "Order" "orders" [Orders.number, Orders.buyer, Orders.number]
    obtain ⟨index, hindex⟩ := haccepts.mpr (by decide)
    obtain ⟨_, _, _, _, haffected⟩ := hholds index hindex
    have hmem : ∀ field, field ∈ [Orders.buyer, Orders.number] ↔
        field ∈ [Orders.number, Orders.buyer, Orders.number] := by
      intro field
      simp only [List.mem_cons, List.not_mem_nil, or_false]
      tauto
    refine ⟨index, hindex, (hsame _ hmem index).mpr hindex, (haffected _).mpr ?_⟩
    exact Or.inr ⟨Orders.buyer, by simp, _, List.mem_singleton_self _, rfl⟩
  · obtain ⟨_, _, _, hrefuses⟩ := ofFields_exact "Order" "orders"
      [Orders.number, Orders.buyer, ⟨"number", Orders.buyer.path, true⟩]
    refine (hrefuses _).mpr ⟨[Orders.number, Orders.buyer], _, [], rfl, ⟨by decide, by decide⟩, ?_⟩
    exact .conflict (by decide) (List.mem_cons_self) rfl (by decide)

end Reindex
