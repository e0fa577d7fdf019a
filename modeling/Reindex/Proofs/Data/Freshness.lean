import Reindex.Proofs.Change.Planned
import Reindex.Proofs.Data.Graph

namespace Reindex.Shop

inductive Item where
  | order
  | buyer
  | company
  deriving DecidableEq

def population : Population Item where
  present := Set.univ
  entity
    | .order => "Order"
    | .buyer => "Customer"
    | .company => "Company"
  id
    | .order => "o1"
    | .buyer => "c1"
    | .company => "k1"
  id_ne := by
    intro x _
    cases x <;> simp

def targets (employed : Bool) : Item → String → Finset Item
  | .order, "buyer" => {.buyer}
  | .buyer, "company" => if employed then {.company} else ∅
  | .buyer, "referrers" => {.buyer}
  | _, _ => ∅

theorem propertiesOf_order : schema.propertiesOf "Order" = [orderNumber, orderBuyer] := by
  decide +kernel

theorem propertiesOf_customer :
    schema.propertiesOf "Customer" = [customerName, customerCompany, customerReferrers] := by
  decide +kernel

theorem propertiesOf_company : schema.propertiesOf "Company" = [companyName] := by
  decide +kernel

def graph (employed : Bool) : Graph schema population String where
  value x name := population.id x ++ "." ++ name
  targets := targets employed
  typed := by
    intro x _ property hproperty target htarget y hy
    refine ⟨trivial, ?_⟩
    cases x with
    | order =>
      change property ∈ schema.propertiesOf "Order" at hproperty
      rw [propertiesOf_order, List.mem_pair] at hproperty
      rcases hproperty with rfl | rfl <;> cases htarget
      rw [Finset.mem_singleton.mp hy]
      rfl
    | buyer =>
      change property ∈ schema.propertiesOf "Customer" at hproperty
      rw [propertiesOf_customer, List.mem_cons, List.mem_pair] at hproperty
      rcases hproperty with rfl | rfl | rfl <;> cases htarget
      · change y ∈ (if employed then {Item.company} else ∅) at hy
        split at hy
        · rw [Finset.mem_singleton.mp hy]
          rfl
        · simp at hy
      · rw [Finset.mem_singleton.mp hy]
        rfl
    | company =>
      change property ∈ schema.propertiesOf "Company" at hproperty
      rw [propertiesOf_company, List.mem_singleton] at hproperty
      subst hproperty
      cases htarget

theorem agreesExcept_company : (graph true).AgreesExcept (graph false) .buyer ["company"] := by
  intro y _ property _ hother
  have htargets : targets true y property.name = targets false y property.name := by
    unfold targets
    split <;> simp_all
  rw [Graph.read, Graph.read]
  simp only [graph, htargets]

def buyerCompany : Path := ⟨"Order", [orderBuyer, customerCompany]⟩

theorem reads_buyerCompany : snapshot.Reads schema "Order" buyerCompany := by
  decide +kernel

theorem read_orderBuyer (employed : Bool) :
    (graph employed).read .order orderBuyer = {.item .buyer} := by
  rw [Graph.read, if_pos (by rfl)]
  change Node.item '' (({.buyer} : Finset Item) : Set Item) = _
  simp

theorem read_customerCompany (employed : Bool) :
    (graph employed).read .buyer customerCompany = if employed then {.item .company} else ∅ := by
  rw [Graph.read, if_pos (by rfl)]
  change Node.item '' ((if employed then {.company} else ∅ : Finset Item) : Set Item) = _
  cases employed <;> simp

theorem along_buyerCompany (employed : Bool) :
    (graph employed).along buyerCompany .order = if employed then {.item .company} else ∅ := by
  ext node
  cases employed <;>
    simp [Graph.along, Graph.follow, buyerCompany, read_orderBuyer, read_customerCompany]

end Reindex.Shop

namespace Reindex.Tracker

variable {ι ν σ : Type} {schema : Schema} {config : Config} {population : Population ι}

theorem plan_singleton (tracker : Tracker σ) {change : Change} (h : change.id ≠ "") :
    tracker.plan [change] =
      .ok (tracker.publication.snapshot.requestsOf change).eraseDups := by
  have hplan : tracker.publication.snapshot.plan [change] =
      .ok ([change].flatMap tracker.publication.snapshot.requestsOf).eraseDups :=
    Snapshot.plan_eq_ok (by simpa using h)
  simpa [plan] using hplan

/-- After an edit of one instance, each document that reads anything else than before along a path
of its fields is planned: as the edited instance itself, or as a dependent along a back path that
leads to the edited instance before and after. -/
theorem update_refreshes {definitions : List Definition} (tracker : Tracker σ)
    (hcompiled : (Compilation.compileDefinitions schema config definitions).outcome =
      .ok tracker.publication.snapshot)
    (graph other : Graph schema population ν) {x : ι} (hx : x ∈ population.present)
    {properties : List String} (hagree : graph.AgreesExcept other x properties) :
    ∃ requests,
      tracker.plan [.updated (population.entity x) (population.id x) properties] = .ok requests ∧
      ∀ root path r, tracker.publication.snapshot.Reads schema root path →
        r ∈ population.present → population.entity r = root →
        graph.along path r ≠ other.along path r →
        (r = x ∧ Request.ofInstance root (population.id r) .index ∈ requests) ∨
        ∃ back : Path,
          ⟨root, .dependents back (population.entity x) (population.id x), .index⟩ ∈ requests ∧
          back.root = root ∧ Node.item x ∈ graph.along back r ∧
          Node.item x ∈ other.along back r := by
  have hindexes := Snapshot.declares_of_compileDefinitions hcompiled
  have hbuilt := fun index hindex => (hindexes index hindex).1
  have hreflects := Snapshot.reflects_of_compileDefinitions hcompiled
  refine ⟨_, tracker.plan_singleton (population.id_ne x hx), ?_⟩
  rintro root path r hreads hr rfl hstale
  have hroot : path.root = population.entity r := hreads.root_eq hbuilt
  have hdeclared : schema.DeclaresFrom (population.entity r) path.hops :=
    hreads.declaresFrom hindexes
  have hchained : path.IsChained := by
    rw [Path.IsChained, hroot]
    exact hdeclared.chainedFrom
  obtain ⟨i, hop, hhop, hname, howned, hgraph, hother⟩ := hagree.exists_crossing hr hdeclared hstale
  have howner : hop.owner = population.entity x := schema.owner_eq howned
  -- an edit that is met at the very start is one of the document's own instance
  by_cases hi : i = 0
  · subst hi
    have hsame : r = x := by simpa [Graph.follow, eq_comm] using hgraph
    subst hsame
    obtain ⟨index, hindex, hentity, _⟩ := hreads
    have hindexed := hreflects.catalog.isDirectlyIndexed_iff.mpr ⟨index, hindex, hentity⟩
    exact Or.inl ⟨rfl, List.mem_eraseDups.mpr
      (hreflects.ofInstance_mem_requestsOf_updated hbuilt hindexed _ _)⟩
  · have hrequest := hreflects.ofDependents_mem_requestsOf_updated hbuilt
      hreads.mem_effectivePaths hchained hhop hi hname (population.id x)
    rw [howner, Request.ofDependents] at hrequest
    refine Or.inr ⟨path.take i, List.mem_eraseDups.mpr ?_, hroot, hgraph, hother⟩
    rw [← hroot]
    exact hrequest

theorem update_refreshes_shop :
    ∃ requests, Shop.tracker.plan [.updated "Customer" "c1" ["company"]] = .ok requests ∧
      ∃ back, ⟨"Order", .dependents back "Customer" "c1", .index⟩ ∈ requests ∧
        Node.item Shop.Item.buyer ∈ (Shop.graph true).along back .order := by
  obtain ⟨requests, hplan, hrequests⟩ := update_refreshes Shop.tracker Shop.outcome_definitions
    (Shop.graph true) (Shop.graph false) (x := .buyer) trivial
    Shop.agreesExcept_company
  have hstale : (Shop.graph true).along Shop.buyerCompany .order ≠
      (Shop.graph false).along Shop.buyerCompany .order := by
    simp [Shop.along_buyerCompany]
  refine ⟨requests, hplan, ?_⟩
  rcases hrequests "Order" _ .order Shop.reads_buyerCompany trivial rfl hstale with
    ⟨hsame, _⟩ | ⟨back, hback, _, hleads, _⟩
  · cases hsame
  · exact ⟨back, hback, hleads⟩

/-- After a removal of one instance and of all references to it, each other document that reads
anything else than before along a path of its fields is planned as a dependent, along a back path
that led to the removed instance. The own document of the instance is planned for deletion. -/
theorem delete_refreshes [DecidableEq ι] {definitions : List Definition} (tracker : Tracker σ)
    (hcompiled : (Compilation.compileDefinitions schema config definitions).outcome =
      .ok tracker.publication.snapshot)
    (graph : Graph schema population ν) {x : ι} (hx : x ∈ population.present) :
    ∃ requests,
      tracker.plan [.deleted (population.entity x) (population.id x)] = .ok requests ∧
      (tracker.publication.snapshot.catalog.isDirectlyIndexed (population.entity x) = true →
        Request.ofInstance (population.entity x) (population.id x) .delete ∈ requests) ∧
      ∀ root path r, tracker.publication.snapshot.Reads schema root path →
        r ∈ population.present → r ≠ x → population.entity r = root →
        graph.along path r ≠ (graph.without x).along path r →
        ∃ back : Path,
          ⟨root, .dependents back (population.entity x) (population.id x), .index⟩ ∈ requests ∧
          back.root = root ∧ back.hops ≠ [] ∧ Node.item x ∈ graph.along back r := by
  have hindexes := Snapshot.declares_of_compileDefinitions hcompiled
  have hbuilt := fun index hindex => (hindexes index hindex).1
  have hreflects := Snapshot.reflects_of_compileDefinitions hcompiled
  refine ⟨_, tracker.plan_singleton (population.id_ne x hx), ?_, ?_⟩
  · intro hindexed
    exact List.mem_eraseDups.mpr (hreflects.ofInstance_mem_requestsOf_deleted hbuilt hindexed _)
  · rintro root path r hreads hr _ rfl hstale
    have hroot : path.root = population.entity r := hreads.root_eq hbuilt
    have hdeclared : schema.DeclaresFrom (population.entity r) path.hops :=
      hreads.declaresFrom hindexes
    obtain ⟨i, hop, hhop, htarget, hfollow⟩ := Graph.exists_severed hr hdeclared hstale
    have hrequest := hreflects.ofDependents_mem_requestsOf_deleted hreads.mem_effectivePaths hhop
      htarget (population.id x)
    rw [Request.ofDependents] at hrequest
    -- the reference itself is gone, so the back path is followed in the graph before the removal
    refine ⟨path.take (i + 1), List.mem_eraseDups.mpr ?_, hroot, ?_, hfollow⟩
    · rw [← hroot]
      exact hrequest
    · have hne : path.hops ≠ [] := List.ne_nil_of_mem (List.mem_of_getElem? hhop)
      simp [Path.take, hne]

theorem delete_refreshes_shop :
    ∃ requests, Shop.tracker.plan [.deleted "Company" "k1"] = .ok requests ∧
      ∃ back, ⟨"Order", .dependents back "Company" "k1", .index⟩ ∈ requests ∧
        Node.item Shop.Item.company ∈ (Shop.graph true).along back .order := by
  obtain ⟨requests, hplan, _, hrequests⟩ := delete_refreshes Shop.tracker Shop.outcome_definitions
    (Shop.graph true) (x := .company) trivial
  have hreached : Node.item .company ∈ (Shop.graph true).along Shop.buyerCompany .order := by
    simp [Shop.along_buyerCompany]
  have hstale : (Shop.graph true).along Shop.buyerCompany .order ≠
      ((Shop.graph true).without .company).along Shop.buyerCompany .order :=
    fun heq => Graph.item_notMem_follow_without (by simp) (heq ▸ hreached)
  obtain ⟨back, hback, _, _, hleads⟩ :=
    hrequests "Order" _ .order Shop.reads_buyerCompany trivial (by simp) rfl hstale
  exact ⟨requests, hplan, back, hback, hleads⟩

end Reindex.Tracker
