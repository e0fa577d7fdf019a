import Reindex.Yaml.Tree.Reader

namespace Reindex.Yaml

inductive Node where
  | scalar (tag : Option Tag) (style : Style) (text : String)
  | sequence (tag : Option Tag) (items : List Node)
  | mapping (tag : Option Tag) (members : List (Node × Node))

abbrev Anchors := List (String × Nat)

namespace Anchors

/-- The slot of a new anchor is the number of names so far. A name used again gets a new slot, which
it shares with the next new name. -/
def define (anchors : Anchors) (name : String) : Nat × Anchors :=
  let slot := (anchors.map Prod.fst).eraseDups.length
  (slot, (name, slot) :: anchors)

def defineOptional (anchors : Anchors) : Option String → Option Nat × Anchors
  | none => (none, anchors)
  | some name =>
    let (slot, anchors) := anchors.define name
    (some slot, anchors)

end Anchors

namespace Tree

mutual

def link (anchors : Anchors) : Tree String → Option (Tree Nat × Anchors)
  | aliasOf name => do some (aliasOf (← anchors.lookup name), anchors)
  | scalar properties style text =>
    let (anchor, anchors) := anchors.defineOptional properties.anchor
    some (scalar ⟨anchor, properties.tag⟩ style text, anchors)
  | sequence properties items => do
    let (anchor, anchors) := anchors.defineOptional properties.anchor
    let (items, anchors) ← linkItems anchors items
    some (sequence ⟨anchor, properties.tag⟩ items, anchors)
  | mapping properties members => do
    let (anchor, anchors) := anchors.defineOptional properties.anchor
    let (members, anchors) ← linkMembers anchors members
    some (mapping ⟨anchor, properties.tag⟩ members, anchors)

def linkItems (anchors : Anchors) : List (Tree String) → Option (List (Tree Nat) × Anchors)
  | [] => some ([], anchors)
  | item :: items => do
    let (item, anchors) ← link anchors item
    let (items, anchors) ← linkItems anchors items
    some (item :: items, anchors)

def linkMembers (anchors : Anchors) :
    List (Tree String × Tree String) → Option (List (Tree Nat × Tree Nat) × Anchors)
  | [] => some ([], anchors)
  | (key, value) :: members => do
    let (key, anchors) ← link anchors key
    let (value, anchors) ← link anchors value
    let (members, anchors) ← linkMembers anchors members
    some ((key, value) :: members, anchors)

end

def own (properties : Properties Nat) (tree : Tree Nat) : List (Nat × Tree Nat) :=
  (properties.anchor.map (fun slot => (slot, tree))).toList

mutual

def named : Tree Nat → List (Nat × Tree Nat)
  | aliasOf _ => []
  | scalar properties style text => own properties (scalar properties style text)
  | sequence properties items => own properties (sequence properties items) ++ namedItems items
  | mapping properties members =>
    own properties (mapping properties members) ++ namedMembers members

def namedItems : List (Tree Nat) → List (Nat × Tree Nat)
  | [] => []
  | item :: items => named item ++ namedItems items

def namedMembers : List (Tree Nat × Tree Nat) → List (Nat × Tree Nat)
  | [] => []
  | (key, value) :: members => named key ++ named value ++ namedMembers members

end

mutual

def eventCount : Tree Nat → Nat
  | aliasOf _ => 1
  | scalar _ _ _ => 1
  | sequence _ items => itemEventCount items + 2
  | mapping _ members => memberEventCount members + 2

def itemEventCount : List (Tree Nat) → Nat
  | [] => 0
  | item :: items => eventCount item + itemEventCount items

def memberEventCount : List (Tree Nat × Tree Nat) → Nat
  | [] => 0
  | (key, value) :: members => eventCount key + eventCount value + memberEventCount members

end

/-- The node with every alias replaced. Passing on the number of aliases that may still be followed
ends a document that contains itself. -/
def expand (slots : List (Nat × Tree Nat)) : Nat → Nat → Tree Nat → StateT Nat Option Node
  | 0, _, _ => failure
  | fuel + 1, depth, aliasOf slot => do
    let left ← get
    if left = 0 then failure
    set (left - 1)
    match slots.lookup slot with
    | some tree => expand slots fuel depth tree
    | none => failure
  | _ + 1, _, scalar properties style text => pure (.scalar properties.tag style text)
  | fuel + 1, depth, sequence properties items => do
    if depth = 0 then failure
    pure (.sequence properties.tag (← items.mapM (expand slots fuel (depth - 1))))
  | fuel + 1, depth, mapping properties members => do
    if depth = 0 then failure
    pure (.mapping properties.tag (← members.mapM (fun (key, value) => do
      pure (← expand slots fuel (depth - 1) key, ← expand slots fuel (depth - 1) value))))

end Tree

namespace Node

instance : Inhabited Node := ⟨scalar none .plain ""⟩

def depthLimit : Nat := 128

def aliasesPerEvent : Nat := 100

/-- Each level of nesting takes an alias and a collection at most. -/
def fuel : Nat := 2 * depthLimit + 2

def ofTree? (tree : Tree String) : Option Node := do
  let (tree, _) ← tree.link []
  let slots := tree.named.reverse
  let (node, _) ← (tree.expand slots fuel depthLimit).run (aliasesPerEvent * tree.eventCount)
  some node

def ofText? (text : String) : Option Node := do ofTree? (← Tree.ofText? text)

end Node

end Reindex.Yaml
