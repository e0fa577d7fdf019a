namespace Reindex

abbrev EntityName := String

inductive ScalarKind where
  | string | text | integer | long | decimal | double | boolean | date | dateTime | uuid | enum
  | file
  deriving DecidableEq, Repr

namespace ScalarKind

def all : List ScalarKind :=
  [string, text, integer, long, decimal, double, boolean, date, dateTime, uuid, enum, file]

def name : ScalarKind → String
  | string => "string"
  | text => "text"
  | integer => "integer"
  | long => "long"
  | decimal => "decimal"
  | double => "double"
  | boolean => "boolean"
  | date => "date"
  | dateTime => "date_time"
  | uuid => "uuid"
  | enum => "enum"
  | file => "file"

def ofName? (text : String) : Option ScalarKind :=
  all.find? (fun kind => kind.name == text)

theorem ofName?_name (kind : ScalarKind) : ofName? kind.name = some kind := by
  cases kind <;> decide

def rank (kind : ScalarKind) : Nat := kind.ctorIdx

theorem rank_injective {k l : ScalarKind} (h : k.rank = l.rank) : k = l := by
  revert h
  cases k <;> cases l <;> decide

instance : Ord ScalarKind := ⟨compareOn rank⟩

end ScalarKind

inductive Cardinality where
  | one | many
  deriving DecidableEq, Repr

namespace Cardinality

def name : Cardinality → String
  | one => "one"
  | many => "many"

def ofName? : String → Option Cardinality
  | "one" => some one
  | "many" => some many
  | _ => none

theorem ofName?_name (cardinality : Cardinality) : ofName? cardinality.name = some cardinality := by
  cases cardinality <;> rfl

end Cardinality

/-- What a property holds: one scalar, or one or many instances of another entity type. -/
inductive Range where
  | scalar (kind : ScalarKind)
  | reference (target : EntityName) (cardinality : Cardinality)
  deriving DecidableEq, Repr

namespace Range

def target? : Range → Option EntityName
  | scalar _ => none
  | reference target _ => some target

def isReference (range : Range) : Bool := range.target?.isSome

def isCollection : Range → Bool
  | reference _ .many => true
  | _ => false

/-- Scalars come first, in the order of their kinds, and all references after them. -/
def rank : Range → Nat
  | scalar kind => kind.rank
  | reference .. => ScalarKind.all.length

def order : Range → Range → Ordering :=
  compareLex (compareOn rank) (compareLex (compareOn target?) (compareOn isCollection))

theorem eq_of_order {r s : Range} (h : order r s = .eq) : r = s := by
  simp only [order, compareLex, compareOn, Ordering.then_eq_eq, Std.LawfulEqOrd.compare_eq_iff_eq]
    at h
  obtain ⟨hrank, htarget, hmany⟩ := h
  cases r with
  | scalar k =>
    cases s with
    | scalar l => exact congrArg scalar (ScalarKind.rank_injective hrank)
    | reference t c => simp [target?] at htarget
  | reference t c =>
    cases s with
    | scalar l => simp [target?] at htarget
    | reference u d =>
      cases c <;> cases d <;> simp_all [target?, isCollection]

instance : Ord Range := ⟨order⟩

instance : Std.TransOrd Range :=
  inferInstanceAs (Std.TransCmp (compareLex (compareOn rank)
    (compareLex (compareOn target?) (compareOn isCollection))))

instance : Std.LawfulEqOrd Range where
  compare_self := Std.ReflCmp.compare_self
  eq_of_compare := eq_of_order

end Range

structure Property where
  owner : EntityName
  name : String
  range : Range
  deriving DecidableEq, Repr

namespace Property

def isReference (property : Property) : Bool := property.range.isReference

def display (property : Property) : String := property.owner ++ "." ++ property.name

def order : Property → Property → Ordering :=
  compareLex (compareOn owner) (compareLex (compareOn name) (compareOn range))

theorem eq_of_order {p q : Property} (h : order p q = .eq) : p = q := by
  simp only [order, compareLex, compareOn, Ordering.then_eq_eq, Std.LawfulEqOrd.compare_eq_iff_eq]
    at h
  cases p
  cases q
  simp_all

instance : Ord Property := ⟨order⟩

instance : Std.TransOrd Property :=
  inferInstanceAs (Std.TransCmp (compareLex (compareOn owner)
    (compareLex (compareOn name) (compareOn range))))

instance : Std.LawfulEqOrd Property where
  compare_self := Std.ReflCmp.compare_self
  eq_of_compare := eq_of_order

end Property

/-- An entity type. Its identity lists the properties that make up the readable name of an
instance. -/
structure Entity where
  name : EntityName
  properties : List Property
  identity : List String
  deriving DecidableEq, Repr

namespace Entity

def property? (entity : Entity) (name : String) : Option Property :=
  entity.properties.find? (fun property => property.name == name)

def propertyNames (entity : Entity) : List String := entity.properties.map Property.name

/-- Identity properties in identity order; names that are not declared are skipped. -/
def identityProperties (entity : Entity) : List Property :=
  entity.identity.filterMap entity.property?

end Entity

end Reindex
