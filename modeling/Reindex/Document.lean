import Std.Data.ExtTreeMap
import Reindex.Json.Normal

namespace Reindex

/-- A record as it was written: with names, or as the values of its slots in order. -/
inductive Record (δ : Type) where
  | named (members : List (String × δ))
  | positional (items : List δ)

class Document (δ : Type) where
  text? : δ → Option String
  /-- Whole numbers of up to 64 bits. -/
  natural? : δ → Option Nat
  flag? : δ → Option Bool
  /-- The name of an alternative without content. -/
  choice? : δ → Option String
  /-- Tells a value from the absence of one; some values are neither. -/
  present? : δ → Option (Option δ)
  items? : δ → Option (List δ)
  members? : δ → Option (List (String × δ))
  record? : δ → Option (Record δ)
  value? : δ → Option Json.Normal

/-- A named place of a record. Only a slot with a default may be left out of a positional record. -/
structure Slot where
  name : String
  hasDefault : Bool

namespace Slot

def plain (name : String) : Slot := ⟨name, false⟩

def defaulted (name : String) : Slot := ⟨name, true⟩

end Slot

namespace Record

variable {δ : Type}

/-- The values given to slots. No slot is given twice, and a closed record has no other names. -/
def slots? (closed : Bool) (slots : List Slot) : Record δ → Option (List (String × δ))
  | named members =>
    let known := members.filter (fun member => slots.any (fun slot => slot.name == member.1))
    if closed && known.length != members.length then none
    else if (known.map Prod.fst).Nodup then some known
    else none
  | positional items =>
    if slots.length < items.length then none
    else if (slots.drop items.length).all Slot.hasDefault then
      some ((slots.map Slot.name).zip items)
    else none

end Record

namespace Document

variable {δ α : Type} [Document δ]

def slots? (closed : Bool) (slots : List Slot) (document : δ) : Option (List (String × δ)) := do
  (← record? document).slots? closed slots

def required (read : δ → Option α) (name : String) (given : List (String × δ)) : Option α :=
  (given.lookup name).bind read

def optional (read : δ → Option α) (name : String) (given : List (String × δ)) :
    Option (Option α) :=
  match given.lookup name with
  | none => some none
  | some document => do
    match ← present? document with
    | none => some none
    | some document => (read document).map some

def defaulted (read : δ → Option α) (default : α) (name : String) (given : List (String × δ)) :
    Option α :=
  match given.lookup name with
  | none => some default
  | some document => read document

def list? (read : δ → Option α) (document : δ) : Option (List α) := do
  (← items? document).mapM read

def map? (read : δ → Option α) (document : δ) : Option (Std.ExtTreeMap String α) := do
  let members ← (← members? document).mapM (fun (name, value) => (read value).map (name, ·))
  some (Std.ExtTreeMap.ofList members)

def word32? (document : δ) : Option UInt32 := do
  let n ← natural? document
  if n < UInt32.size then some (UInt32.ofNat n) else none

def word64? (document : δ) : Option UInt64 := do
  let n ← natural? document
  if n < UInt64.size then some (UInt64.ofNat n) else none

end Document

end Reindex
