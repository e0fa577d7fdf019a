import Reindex.Json

namespace Reindex.Json

def insertMember (name : String) (value : Json) : List (String × Json) → List (String × Json)
  | [] => [(name, value)]
  | (other, kept) :: members =>
    if name < other then (name, value) :: (other, kept) :: members
    else if name = other then (other, kept) :: members
    else (other, kept) :: insertMember name value members

mutual

/-- Every object keeps the last member of each name, and these sorted by name. -/
def normalized : Json → Json
  | array items => array (normalizedItems items)
  | object members => object (normalizedMembers members)
  | value => value

def normalizedItems : List Json → List Json
  | [] => []
  | item :: items => normalized item :: normalizedItems items

def normalizedMembers : List (String × Json) → List (String × Json)
  | [] => []
  | (name, value) :: members => insertMember name (normalized value) (normalizedMembers members)

end

theorem insertMember_of_lt {name : String} {value : Json} {members : List (String × Json)}
    (h : ∀ member ∈ members, name < member.1) :
    insertMember name value members = (name, value) :: members := by
  cases members with
  | nil => rfl
  | cons member members => simp [insertMember, h member (by simp)]

theorem mem_insertMember {name : String} {value : Json} {members : List (String × Json)}
    {member : String × Json} (h : member ∈ insertMember name value members) :
    member = (name, value) ∨ member ∈ members := by
  induction members with
  | nil => simpa [insertMember] using h
  | cons other members ih =>
    unfold insertMember at h
    split at h
    · simpa using h
    · split at h
      · exact Or.inr h
      · simp only [List.mem_cons] at h ⊢
        rcases h with h | h
        · exact Or.inr (Or.inl h)
        · exact (ih h).imp_right Or.inr

theorem sorted_insertMember {name : String} {value : Json} {members : List (String × Json)}
    (h : members.Pairwise (fun a b => a.1 < b.1)) :
    (insertMember name value members).Pairwise (fun a b => a.1 < b.1) := by
  induction members with
  | nil => simp [insertMember]
  | cons other members ih =>
    obtain ⟨first, rest⟩ := List.pairwise_cons.1 h
    unfold insertMember
    split
    · rename_i hlt
      refine List.pairwise_cons.2 ⟨fun b hb => ?_, h⟩
      rcases List.mem_cons.1 hb with rfl | hb
      · exact hlt
      · exact String.lt_trans hlt (first b hb)
    · split
      · exact h
      · rename_i hnlt hne
        refine List.pairwise_cons.2 ⟨fun b hb => ?_, ih rest⟩
        rcases mem_insertMember hb with rfl | hb
        · exact Decidable.byContradiction (fun h =>
            hne (String.le_antisymm (String.not_lt.1 h) (String.not_lt.1 hnlt)))
        · exact first b hb

theorem sorted_normalizedMembers (members : List (String × Json)) :
    (normalizedMembers members).Pairwise (fun a b => a.1 < b.1) := by
  induction members with
  | nil => simp [normalizedMembers]
  | cons member members ih => exact sorted_insertMember ih

/-- Sorted members whose values are normal stay as they are. -/
theorem normalizedMembers_of_sorted {members : List (String × Json)}
    (hsorted : members.Pairwise (fun a b => a.1 < b.1))
    (hnormal : ∀ member ∈ members, member.2.normalized = member.2) :
    normalizedMembers members = members := by
  induction members with
  | nil => rfl
  | cons member members ih =>
    obtain ⟨first, rest⟩ := List.pairwise_cons.1 hsorted
    obtain ⟨name, value⟩ := member
    rw [normalizedMembers, hnormal (name, value) (by simp),
      ih rest (fun m hm => hnormal m (by simp [hm])), insertMember_of_lt first]

mutual

theorem normalized_normalized : ∀ value : Json, value.normalized.normalized = value.normalized
  | null => rfl
  | bool _ => rfl
  | number _ => rfl
  | string _ => rfl
  | array items => by simp [normalized, normalizedItems_normalizedItems items]
  | object members => by
    simp only [normalized]
    rw [normalizedMembers_of_sorted (sorted_normalizedMembers members)
      (normal_of_mem_normalizedMembers members)]

theorem normalizedItems_normalizedItems :
    ∀ items : List Json, normalizedItems (normalizedItems items) = normalizedItems items
  | [] => rfl
  | item :: items => by
    simp [normalizedItems, normalized_normalized item, normalizedItems_normalizedItems items]

theorem normal_of_mem_normalizedMembers : ∀ members : List (String × Json),
    ∀ member ∈ normalizedMembers members, member.2.normalized = member.2
  | [] => by simp [normalizedMembers]
  | (name, value) :: members => by
    intro member h
    rcases mem_insertMember h with rfl | h
    · exact normalized_normalized value
    · exact normal_of_mem_normalizedMembers members member h

end

/-- A value whose objects are sorted and repeat no name. -/
abbrev Normal := { value : Json // value.normalized = value }

def Normal.ofJson (value : Json) : Normal := ⟨value.normalized, normalized_normalized value⟩

end Reindex.Json
