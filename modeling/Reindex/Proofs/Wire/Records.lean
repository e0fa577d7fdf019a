import Mathlib.Data.List.Nodup
import Reindex.Json.Document
import Reindex.Proofs.Result
import Reindex.Proofs.Table

namespace Reindex

/-- Reading undoes writing, so that values written alike are the same. -/
structure RoundTrips {α : Type} (write : α → Json) (read? : Json → Option α) : Prop where
  read_write : ∀ x, read? (write x) = some x
  injective : Function.Injective write

variable {α : Type} {write : α → Json} {read : Json → Option α} {name key tag : String}

theorem eq_of_read_write {x y : α} (hx : read (write x) = some x) (hy : read (write y) = some y)
    (h : write x = write y) : x = y :=
  Option.some_inj.mp (by rw [← hx, h, hy])

theorem RoundTrips.of_read_write (h : ∀ x, read (write x) = some x) : RoundTrips write read :=
  ⟨h, fun x y => eq_of_read_write (h x) (h y)⟩

namespace Json

theorem tagged?_object {rest : List (String × Json)} (h : tag ∉ rest.map Prod.fst) :
    tagged? tag (object ((tag, string name) :: rest)) = some (name, object rest) := by
  have hothers : ∀ member ∈ rest, (member.1 == tag) = false := by
    intro member hmember
    rw [beq_eq_false_iff_ne]
    rintro rfl
    exact h (List.mem_map_of_mem hmember)
  have hnone : rest.filter (fun member => member.1 == tag) = [] :=
    List.filter_eq_nil_iff.mpr fun member hmember => by simp [hothers member hmember]
  have hall : rest.filter (fun member => !(member.1 == tag)) = rest :=
    List.filter_eq_self.mpr fun member hmember => by simp [hothers member hmember]
  simp [tagged?, List.partition_eq_filter_filter, hnone, Function.comp_def, hall]

end Json

namespace Document

theorem slots?_object {closed : Bool} {slots : List Slot} {members : List (String × Json)}
    (hslots : (slots.map Slot.name).Nodup)
    (h : (members.map Prod.fst).Sublist (slots.map Slot.name)) :
    slots? closed slots (Json.object members) = some members := by
  have hknown : members.filter (fun member => slots.any (fun slot => slot.name == member.1)) =
      members := by
    rw [List.filter_eq_self]
    intro member hmember
    simpa using h.subset (List.mem_map_of_mem hmember)
  have hrecord : record? (Json.object members) = some (.named members) := rfl
  simp [slots?, hrecord, Record.slots?, hknown, h.nodup hslots]

variable {given : List (String × Json)}

theorem optional_of_lookup_some {x : α} {document : Json}
    (hlookup : given.lookup name = some document)
    (hpresent : Json.present? document = some (some document)) (hread : read document = some x) :
    optional read name given = some (some x) := by
  have hsome : present? document = some (some document) := hpresent
  simp only [optional, hlookup, hsome, hread, Option.bind_eq_bind, Option.bind_some,
    Option.map_some]

theorem optional_of_lookup {value : Option α}
    (hlookup : given.lookup name = value.map write)
    (hpresent : ∀ x, Json.present? (write x) = some (some (write x)))
    (hread : ∀ x, read (write x) = some x) : optional read name given = some value := by
  cases value with
  | none =>
    rw [Option.map_none] at hlookup
    simp only [optional, hlookup]
  | some x => exact optional_of_lookup_some hlookup (hpresent x) (hread x)

theorem optional_of_lookup_null {value : Option α}
    (hlookup : given.lookup name = some ((value.map write).getD .null))
    (hpresent : ∀ x, Json.present? (write x) = some (some (write x)))
    (hread : ∀ x, read (write x) = some x) : optional read name given = some value := by
  cases value with
  | none =>
    have hnull : present? Json.null = some none := rfl
    rw [Option.map_none, Option.getD_none] at hlookup
    simp only [optional, hlookup, hnull, Option.bind_eq_bind, Option.bind_some]
  | some x => exact optional_of_lookup_some hlookup (hpresent x) (hread x)

theorem defaulted_of_lookup {x default : α} {document : Json}
    (hlookup : given.lookup name = some document) (hread : read document = some x) :
    defaulted read default name given = some x := by
  simp only [defaulted, hlookup, hread]

theorem defaulted_of_lookup_unless {x default : α} {document : Json} {dropped : Prop}
    [Decidable dropped] (hdropped : dropped → x = default)
    (hlookup : given.lookup name = (if dropped then none else some ()).map fun _ => document)
    (hread : read document = some x) : defaulted read default name given = some x := by
  by_cases h : dropped
  · rw [if_pos h, Option.map_none] at hlookup
    simp only [defaulted, hlookup, hdropped h]
  · rw [if_neg h, Option.map_some] at hlookup
    exact defaulted_of_lookup hlookup hread

theorem lookup_optional_append (key name : String) (write : α → Json) (value : Option α)
    (rest : List (String × Json)) :
    ((value.map fun x => (name, write x)).toList ++ rest).lookup key =
      if key = name then (value.map write).or (rest.lookup key) else rest.lookup key := by
  cases value with
  | none => simp
  | some x =>
    by_cases h : key = name
    · simp [h]
    · have hother : (key == name) = false := beq_eq_false_iff_ne.mpr h
      simp [List.lookup_cons, h, hother]

theorem lookup_optional (key name : String) (write : α → Json) (value : Option α) :
    ((value.map fun x => (name, write x)).toList).lookup key =
      if key = name then value.map write else none := by
  simpa using lookup_optional_append key name write value []

theorem unless_eq_optional (dropped : Prop) [Decidable dropped] (name : String)
    (document : Json) : (if dropped then [] else [(name, document)]) =
      ((if dropped then none else some ()).map fun _ => (name, document)).toList := by
  by_cases h : dropped <;> simp [h]

theorem names_optional_sublist (name : String) (write : α → Json) (value : Option α) :
    ((value.map fun x => (name, write x)).toList.map Prod.fst).Sublist [name] := by
  cases value <;> simp

theorem list?_array (hread : ∀ x, read (write x) = some x) (xs : List α) :
    list? read (.array (xs.map write)) = some xs := by
  have hitems : items? (Json.array (xs.map write)) = some (xs.map write) := rfl
  rw [list?, hitems, Option.bind_eq_bind, Option.bind_some, Result.mapM_map_eq_some hread]

theorem map?_object (hread : ∀ x, read (write x) = some x) (table : Std.ExtTreeMap String α) :
    map? read (.object (table.toList.map fun (key, x) => (key, write x))) = some table := by
  have hmembers : members? (Json.object (table.toList.map fun (key, x) => (key, write x))) =
      some (table.toList.map fun (key, x) => (key, write x)) := rfl
  have hentries := Result.mapM_map_eq_some
    (f := fun (key, document) => (read document).map (key, ·))
    (g := fun (key, x) => (key, write x)) (by simp [hread]) table.toList
  simp only [map?, hmembers, hentries, Table.ofList_toList, Option.bind_eq_bind, Option.bind_some]

theorem natural?_nat (n : Nat) : natural? (Json.nat n) = some n := by
  change Json.natural? (Json.nat n) = some n
  simp [Json.natural?, Json.nat]

theorem word32?_nat (n : UInt32) : word32? (Json.nat n.toNat) = some n := by
  simp [word32?, natural?_nat, n.toNat_lt_size]

theorem word64?_nat (n : UInt64) : word64? (Json.nat n.toNat) = some n := by
  simp [word64?, natural?_nat, n.toNat_lt_size]

end Document

end Reindex
