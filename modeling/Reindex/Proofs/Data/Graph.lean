import Mathlib.Data.Finset.Basic
import Reindex.Proofs.Closed

namespace Reindex

structure Population (ι : Type) where
  present : Set ι
  entity : ι → EntityName
  id : ι → String
  id_ne : ∀ x ∈ present, id x ≠ ""

inductive Node (ι ν : Type) where
  | value (value : ν)
  | item (item : ι)

/-- The values and references of a population. References lead to existing instances of the type
that the schema declares. -/
structure Graph {ι : Type} (schema : Schema) (population : Population ι) (ν : Type) where
  value : ι → String → ν
  targets : ι → String → Finset ι
  typed : ∀ x ∈ population.present, ∀ property ∈ schema.propertiesOf (population.entity x),
    ∀ target : EntityName, property.range.target? = some target →
      ∀ y ∈ targets x property.name, y ∈ population.present ∧ population.entity y = target

namespace Graph

variable {ι ν : Type} {schema : Schema} {population population' : Population ι}

def read (graph : Graph schema population ν) (x : ι) (property : Property) : Set (Node ι ν) :=
  if property.isReference then Node.item '' graph.targets x property.name
  else {Node.value (graph.value x property.name)}

def follow (graph : Graph schema population ν) : List Property → Node ι ν → Set (Node ι ν)
  | [], node => {node}
  | _ :: _, .value _ => ∅
  | hop :: hops, .item x => {node | ∃ step ∈ graph.read x hop, node ∈ graph.follow hops step}

/-- The nodes at the end of a path that starts at an instance. -/
def along (graph : Graph schema population ν) (path : Path) (x : ι) : Set (Node ι ν) :=
  graph.follow path.hops (.item x)

variable (graph : Graph schema population ν)

theorem item_mem_read {x y : ι} {property : Property} :
    Node.item y ∈ graph.read x property ↔
      property.isReference = true ∧ y ∈ graph.targets x property.name := by
  unfold read
  split
  · next h => simp [h]
  · next h => simp [h]

theorem mem_follow_cons {hop : Property} {hops : List Property} {x : ι} {node : Node ι ν} :
    node ∈ graph.follow (hop :: hops) (.item x) ↔
      ∃ step ∈ graph.read x hop, node ∈ graph.follow hops step := Iff.rfl

theorem typed_of_item_mem_read {x y : ι} {property : Property} (hx : x ∈ population.present)
    (hproperty : property ∈ schema.propertiesOf (population.entity x))
    (h : Node.item y ∈ graph.read x property) :
    y ∈ population.present ∧ property.range.target? = some (population.entity y) := by
  obtain ⟨hreference, hy⟩ := (graph.item_mem_read).mp h
  obtain ⟨target, htarget⟩ := Option.isSome_iff_exists.mp hreference
  obtain ⟨hpresent, rfl⟩ := graph.typed x hx property hproperty target htarget y hy
  exact ⟨hpresent, htarget⟩

/-- Where two graphs hold the same, they only disagree beyond one of the instances there. -/
theorem exists_item_of_follow_ne (other : Graph schema population' ν) {hop : Property}
    {hops : List Property} {x : ι} (hread : graph.read x hop = other.read x hop)
    (h : graph.follow (hop :: hops) (.item x) ≠ other.follow (hop :: hops) (.item x)) :
    ∃ y, Node.item y ∈ graph.read x hop ∧
      graph.follow hops (.item y) ≠ other.follow hops (.item y) := by
  by_contra hall
  push Not at hall
  have hsame : ∀ step ∈ graph.read x hop, graph.follow hops step = other.follow hops step := by
    intro step hstep
    cases step with
    | value v => cases hops <;> rfl
    | item y => exact hall y hstep
  refine h (Set.ext fun node => ?_)
  rw [mem_follow_cons, mem_follow_cons, ← hread]
  exact exists_congr fun step => and_congr_right fun hstep => by rw [hsame step hstep]

/-- The graphs hold the same, but for the listed properties of one instance. -/
def AgreesExcept (other : Graph schema population ν) (x : ι) (properties : List String) : Prop :=
  ∀ y ∈ population.present, ∀ property ∈ schema.propertiesOf (population.entity y),
    (y = x → property.name ∉ properties) → graph.read y property = other.read y property

/-- Some first part of the path leads to the edited instance in both graphs, and the next hop is one
of the edited properties. -/
theorem AgreesExcept.exists_crossing {graph other : Graph schema population ν} {x : ι}
    {properties : List String} (hagree : graph.AgreesExcept other x properties)
    {hops : List Property} {y : ι} (hy : y ∈ population.present)
    (hdeclared : schema.DeclaresFrom (population.entity y) hops)
    (h : graph.follow hops (.item y) ≠ other.follow hops (.item y)) :
    ∃ i hop, hops[i]? = some hop ∧ hop.name ∈ properties ∧
      hop ∈ schema.propertiesOf (population.entity x) ∧
      Node.item x ∈ graph.follow (hops.take i) (.item y) ∧
      Node.item x ∈ other.follow (hops.take i) (.item y) := by
  induction hops generalizing y with
  | nil => exact absurd rfl h
  | cons hop hops ih =>
    have hhop : hop ∈ schema.propertiesOf (population.entity y) := hdeclared.1
    -- the graphs disagree here, or they lead to the same instances and disagree beyond one of them
    by_cases hread : graph.read y hop = other.read y hop
    · obtain ⟨z, hz, hne⟩ := graph.exists_item_of_follow_ne other hread h
      obtain ⟨hpresent, htarget⟩ := graph.typed_of_item_mem_read hy hhop hz
      obtain ⟨i, later, hlater, hname, howned, hgraph, hother⟩ :=
        ih hpresent (hdeclared.tail htarget) hne
      refine ⟨i + 1, later, by simpa using hlater, hname, howned, ?_, ?_⟩
      · exact graph.mem_follow_cons.mpr ⟨_, hz, hgraph⟩
      · exact other.mem_follow_cons.mpr ⟨_, hread ▸ hz, hother⟩
    · have hedited : ¬(y = x → hop.name ∉ properties) :=
        fun hsame => hread (hagree y hy hop hhop hsame)
      push Not at hedited
      obtain ⟨rfl, hname⟩ := hedited
      exact ⟨0, hop, rfl, hname, hhop, by simp [follow], by simp [follow]⟩

end Graph

def Population.without {ι : Type} (population : Population ι) (x : ι) : Population ι where
  present := population.present \ {x}
  entity := population.entity
  id := population.id
  id_ne := fun y hy => population.id_ne y hy.1

namespace Graph

variable {ι ν : Type} [DecidableEq ι] {schema : Schema} {population : Population ι}
  (graph : Graph schema population ν)

/-- The graph without one instance and without all references to it. -/
def without (x : ι) : Graph schema (population.without x) ν where
  value := graph.value
  targets := fun y name => (graph.targets y name).erase x
  typed := by
    intro y hy property hproperty target htarget z hz
    obtain ⟨hne, hz⟩ := Finset.mem_erase.mp hz
    obtain ⟨hpresent, hentity⟩ := graph.typed y hy.1 property hproperty target htarget z hz
    exact ⟨⟨hpresent, hne⟩, hentity⟩

theorem read_without {x y : ι} {property : Property}
    (h : Node.item x ∉ graph.read y property) :
    (graph.without x).read y property = graph.read y property := by
  unfold read
  split
  · next hreference =>
    have hx : x ∉ graph.targets y property.name := fun hx =>
      h (graph.item_mem_read.mpr ⟨hreference, hx⟩)
    simp [without, Finset.erase_eq_of_notMem hx]
  · rfl

variable {graph}

theorem item_notMem_follow_without {x : ι} {hops : List Property} {y : ι} (hy : y ≠ x) :
    Node.item x ∉ (graph.without x).follow hops (.item y) := by
  induction hops generalizing y with
  | nil =>
    intro hx
    cases Set.mem_singleton_iff.mp hx
    exact hy rfl
  | cons hop hops ih =>
    rintro ⟨step, hstep, hx⟩
    cases step with
    | value v => cases hops <;> cases hx
    | item z =>
      have hz : z ∈ (graph.targets y hop.name).erase x := (item_mem_read _).mp hstep |>.2
      exact ih (Finset.ne_of_mem_erase hz) hx

/-- Some first part of the path ends on a reference to the removed instance. -/
theorem exists_severed {x : ι} {hops : List Property} {y : ι} (hy : y ∈ population.present)
    (hdeclared : schema.DeclaresFrom (population.entity y) hops)
    (h : graph.follow hops (.item y) ≠ (graph.without x).follow hops (.item y)) :
    ∃ i hop, hops[i]? = some hop ∧ hop.range.target? = some (population.entity x) ∧
      Node.item x ∈ graph.follow (hops.take (i + 1)) (.item y) := by
  induction hops generalizing y with
  | nil => exact absurd rfl h
  | cons hop hops ih =>
    have hhop : hop ∈ schema.propertiesOf (population.entity y) := hdeclared.1
    -- without a reference to the removed instance, this hop leads on as before
    by_cases hx : Node.item x ∈ graph.read y hop
    · obtain ⟨_, htarget⟩ := graph.typed_of_item_mem_read hy hhop hx
      refine ⟨0, hop, rfl, htarget, graph.mem_follow_cons.mpr ⟨_, hx, ?_⟩⟩
      simp [follow]
    · obtain ⟨z, hz, hne⟩ :=
        graph.exists_item_of_follow_ne (graph.without x) (graph.read_without hx).symm h
      obtain ⟨hpresent, htarget⟩ := graph.typed_of_item_mem_read hy hhop hz
      obtain ⟨i, later, hlater, hcut, hfollow⟩ :=
        ih hpresent (hdeclared.tail htarget) hne
      exact ⟨i + 1, later, by simpa using hlater, hcut, graph.mem_follow_cons.mpr ⟨_, hz, hfollow⟩⟩

end Graph

end Reindex
