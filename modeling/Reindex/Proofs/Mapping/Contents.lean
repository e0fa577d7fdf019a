import Reindex.Proofs.Mapping.Fields
import Reindex.Proofs.Result

namespace Reindex.Index

def Fits (root : EntityName) (field : Field) : Prop :=
  field.path.hops ≠ [] ∧ field.path.root = root

instance (root : EntityName) (field : Field) : Decidable (Fits root field) :=
  inferInstanceAs (Decidable (_ ∧ _))

/-- The fields of the index are the given ones, told apart by their names. -/
structure Holds (root : EntityName) (name : String) (fields : List Field) (index : Index) :
    Prop where
  entity_eq : index.entity = root
  name_eq : index.name = name
  field? : ∀ {key : String} {field : Field},
    index.field? key = some field ↔ field ∈ fields ∧ field.name = key
  affected : ∀ {other : EntityName}, other ∈ index.affected ↔
    other = root ∨ ∃ field ∈ fields, other ∈ field.path.targets

variable {root : EntityName} {name : String} {fields : List Field} {field : Field}
  {index other : Index}

theorem ext_of_mem (hentity : index.entity = other.entity) (hname : index.name = other.name)
    (hfields : index.fields = other.fields)
    (haffected : ∀ target : EntityName, target ∈ index.affected ↔ target ∈ other.affected) :
    index = other := by
  obtain ⟨entity, name, table, affected⟩ := index
  obtain ⟨entity', name', table', affected'⟩ := other
  obtain rfl : entity = entity' := hentity
  obtain rfl : name = name' := hname
  obtain rfl : table = table' := hfields
  obtain rfl : affected = affected' := Std.ExtTreeSet.ext_mem haffected
  rfl

namespace Holds

theorem keyed (h : index.Holds root name fields) :
    Table.KeyedBy Field.name fields index.fields := fun _ _ => h.field?

theorem mem_fieldList (h : index.Holds root name fields) :
    field ∈ index.fieldList ↔ field ∈ fields := by
  rw [Index.mem_fieldList]
  constructor
  · rintro ⟨key, hkey⟩
    exact (h.field?.mp hkey).1
  · intro hfield
    exact ⟨field.name, h.field?.mpr ⟨hfield, rfl⟩⟩

theorem consistent (h : index.Holds root name fields) (hfits : ∀ field ∈ fields, Fits root field) :
    index.Consistent where
  named := fun hkey => (h.field?.mp hkey).2
  rooted := by
    intro field hfield
    rw [h.entity_eq]
    exact (hfits field (h.mem_fieldList.mp hfield)).2
  nonempty := fun field hfield => (hfits field (h.mem_fieldList.mp hfield)).1
  affected := by
    intro target
    rw [h.affected, h.entity_eq]
    simp only [h.mem_fieldList]

theorem unique (h : index.Holds root name fields) (hother : other.Holds root name fields) :
    index = other := by
  apply ext_of_mem (h.entity_eq.trans hother.entity_eq.symm)
    (h.name_eq.trans hother.name_eq.symm)
  · exact h.keyed.ext hother.keyed fun field => Iff.rfl
  · intro target
    exact h.affected.trans hother.affected.symm

theorem congr {others : List Field} (hsame : ∀ field, field ∈ fields ↔ field ∈ others)
    (h : index.Holds root name fields) : index.Holds root name others where
  entity_eq := h.entity_eq
  name_eq := h.name_eq
  field? := h.keyed.congr hsame _ _
  affected := by
    intro target
    rw [h.affected]
    simp only [hsame]

theorem eq_of_name_eq (h : index.Holds root name fields) {field other : Field}
    (hfield : field ∈ fields) (hother : other ∈ fields) (hname : field.name = other.name) :
    field = other := by
  have hleft := h.field?.mpr ⟨hfield, hname⟩
  have hright := h.field?.mpr ⟨hother, rfl⟩
  exact Option.some.inj (hleft.symm.trans hright)

theorem bare (root : EntityName) (name : String) : (bare root name).Holds root name [] where
  entity_eq := rfl
  name_eq := rfl
  field? := by simp [Index.bare, Index.field?]
  affected := by
    intro target
    simpa [Index.bare] using eq_comm

theorem mem_affected_affect (h : index.Holds root name fields) {target : EntityName} :
    target ∈ (index.affect field.path.targets).affected ↔
      target = root ∨ ∃ given ∈ fields ++ [field], target ∈ given.path.targets := by
  rw [Index.mem_affected_affect, h.affected, or_assoc]
  simp only [List.mem_append, List.mem_singleton, or_and_right, exists_or, exists_eq_left]

theorem insertField (h : index.Holds root name fields)
    (hnew : index.field? field.name = none) :
    ((index.affect field.path.targets).insertField field).Holds root name (fields ++ [field]) where
  entity_eq := h.entity_eq
  name_eq := h.name_eq
  field? := h.keyed.insert (h.keyed.getElem?_eq_none.mp hnew) _ _
  affected := h.mem_affected_affect

theorem affect_known (h : index.Holds root name fields) (hfield : field ∈ fields) :
    (index.affect field.path.targets).Holds root name (fields ++ [field]) where
  entity_eq := h.entity_eq
  name_eq := h.name_eq
  field? := by
    apply h.keyed.congr
    intro other
    rw [List.mem_append, List.mem_singleton, iff_self_or]
    rintro rfl
    exact hfield
  affected := h.mem_affected_affect

theorem exists_append (h : index.Holds root name fields)
    (hname : ∀ known ∈ fields, known.name = field.name → known = field) :
    ∃ next : Index, next.Holds root name (fields ++ [field]) := by
  cases hfield : index.field? field.name with
  | none => exact ⟨_, h.insertField hfield⟩
  | some known =>
    obtain ⟨hknown, hsame⟩ := h.field?.mp hfield
    exact ⟨_, h.affect_known (hname known hknown hsame ▸ hknown)⟩

theorem addField_eq_ok (h : index.Holds root name fields) :
    index.addField field = .ok other ↔
      Fits root field ∧ other.Holds root name (fields ++ [field]) := by
  rw [Index.addField_eq_ok, Fits, h.entity_eq, and_assoc]
  refine and_congr_right fun _ => and_congr_right fun _ => ?_
  constructor
  · rintro (⟨hnew, rfl⟩ | ⟨hknown, rfl⟩)
    · exact h.insertField hnew
    · exact h.affect_known (h.field?.mp hknown).1
  · intro hother
    cases hfield : index.field? field.name with
    | none => exact Or.inl ⟨rfl, hother.unique (h.insertField hfield)⟩
    | some known =>
      obtain ⟨hknown, hname⟩ := h.field?.mp hfield
      obtain rfl : known = field :=
        hother.eq_of_name_eq (List.mem_append_left _ hknown) (by simp) hname
      exact Or.inr ⟨rfl, hother.unique (h.affect_known hknown)⟩

theorem foldlM_addField_eq_ok (h : index.Holds root name fields) {more : List Field} :
    more.foldlM addField index = .ok other ↔
      (∀ field ∈ more, Fits root field) ∧ other.Holds root name (fields ++ more) := by
  induction more generalizing index fields with
  | nil =>
    rw [List.foldlM_nil, List.append_nil]
    constructor
    · rintro ⟨⟩
      exact ⟨by simp, h⟩
    · rintro ⟨_, hother⟩
      exact congrArg Except.ok (h.unique hother)
  | cons field more ih =>
    rw [List.foldlM_cons, Result.bind_eq_ok, List.forall_mem_cons, List.append_cons]
    constructor
    · rintro ⟨next, hnext, hrest⟩
      obtain ⟨hfits, hnext⟩ := h.addField_eq_ok.mp hnext
      obtain ⟨hmore, hother⟩ := (ih hnext).mp hrest
      exact ⟨⟨hfits, hmore⟩, hother⟩
    · rintro ⟨⟨hfits, hmore⟩, hother⟩
      have hfield : field ∈ fields ++ [field] ++ more := by simp
      -- the final index keeps names apart, so it must have been possible to add this field
      obtain ⟨next, hnext⟩ := h.exists_append fun known hknown =>
        hother.eq_of_name_eq (by simp [hknown]) hfield
      exact ⟨next, h.addField_eq_ok.mpr ⟨hfits, hnext⟩, (ih hnext).mpr ⟨hmore, hother⟩⟩

end Holds

/-- Fields make up an index if and only if each of them fits and the index holds just them. -/
theorem ofFields_eq_ok :
    ofFields root name fields = .ok index ↔
      (∀ field ∈ fields, Fits root field) ∧ index.Holds root name fields :=
  (Holds.bare root name).foldlM_addField_eq_ok

theorem ofFields_congr {others : List Field}
    (hsame : ∀ field, field ∈ fields ↔ field ∈ others)
    (h : ofFields root name fields = .ok index) : ofFields root name others = .ok index := by
  obtain ⟨hfits, hholds⟩ := ofFields_eq_ok.mp h
  exact ofFields_eq_ok.mpr ⟨fun field hfield => hfits field ((hsame field).mpr hfield),
    hholds.congr hsame⟩

theorem isBuilt_of_ofFields (h : ofFields root name fields = .ok index) : index.IsBuilt := by
  have hholds := (ofFields_eq_ok.mp h).2
  refine ⟨fields, ?_⟩
  rw [hholds.entity_eq, hholds.name_eq]
  exact h

theorem IsBuilt.consistent (h : index.IsBuilt) : index.Consistent := by
  obtain ⟨fields, hfields⟩ := h
  obtain ⟨hfits, hholds⟩ := ofFields_eq_ok.mp hfields
  exact hholds.consistent hfits

end Reindex.Index
