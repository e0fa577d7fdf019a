import Reindex.Proofs.Change.Planned

namespace Reindex

namespace Change

def operation : Change → Operation
  | created .. | updated .. => .index
  | deleted .. => .delete

def concerns (entity : EntityName) (id : String) (change : Change) : Bool :=
  change.entity == entity && change.id == id

end Change

namespace Request

variable (entity : EntityName) (id : String)

def operationOn? (request : Request) : Option Operation :=
  if request.entity = entity ∧ request.target = .single id then some request.operation else none

/-- Whether the document is there after a request, given whether it was there before. -/
def carryOut (present : Bool) (request : Request) : Bool :=
  match request.operationOn? entity id with
  | some operation => operation == .index
  | none => present

def carryOutAll (requests : List Request) (present : Bool) : Bool :=
  requests.foldl (carryOut entity id) present

theorem operationOn?_eq_some {request : Request} {operation : Operation} :
    request.operationOn? entity id = some operation ↔
      request = ofInstance entity id operation := by
  obtain ⟨root, target, own⟩ := request
  simp [operationOn?, ofInstance, and_assoc]

theorem carryOutAll_eq (requests : List Request) (present : Bool) :
    carryOutAll entity id requests present =
      ((requests.filterMap (operationOn? entity id)).getLast?.map (· == .index)).getD present := by
  induction requests generalizing present with
  | nil => rfl
  | cons request requests ih =>
    have hstep : carryOutAll entity id (request :: requests) present =
      carryOutAll entity id requests (carryOut entity id present request) := rfl
    rw [hstep, ih]
    cases hoperation : request.operationOn? entity id with
    | none => simp [carryOut, hoperation]
    | some operation =>
      rw [List.filterMap_cons_some hoperation, List.getLast?_cons]
      cases (requests.filterMap (operationOn? entity id)).getLast? <;> simp [carryOut, hoperation]

end Request

theorem filterMap_filter_ne {α β : Type} [DecidableEq α] {f : α → Option β} {x : α}
    (hx : f x = none) (l : List α) : (l.filter (fun y => !y == x)).filterMap f = l.filterMap f := by
  rw [List.filterMap_filter]
  refine List.filterMap_congr fun y _ => ?_
  by_cases hy : y = x
  · simp [hy, hx]
  · simp [hy]

theorem filterMap_filter_ne_some {α β : Type} [DecidableEq α] [DecidableEq β] {f : α → Option β}
    {x : α} {z : β} (hf : ∀ y, f y = some z ↔ y = x) (l : List α) :
    (l.filter (fun y => !y == x)).filterMap f = (l.filterMap f).filter (fun w => !w == z) := by
  rw [List.filterMap_filter, List.filter_filterMap]
  refine List.filterMap_congr fun y _ => ?_
  by_cases hy : y = x
  · simp [hy, (hf x).mpr rfl, Option.filter]
  · have hne : f y ≠ some z := fun hz => hy ((hf y).mp hz)
    cases hw : f y with
    | none => simp
    | some w =>
      have hwz : w ≠ z := by simpa [hw] using hne
      simp [hy, hwz, Option.filter]

theorem filterMap_eraseDups {α β : Type} [DecidableEq α] [DecidableEq β] {f : α → Option β}
    (hf : ∀ {x y : α} {z : β}, f x = some z → f y = some z → y = x) :
    ∀ l : List α, l.eraseDups.filterMap f = (l.filterMap f).eraseDups
  | [] => by simp
  | x :: l => by
    have hrest := filterMap_eraseDups hf (l.filter fun y => !y == x)
    rw [List.eraseDups_cons]
    cases hx : f x with
    | none =>
      rw [List.filterMap_cons_none hx, List.filterMap_cons_none hx, hrest, filterMap_filter_ne hx]
    | some z =>
      have honly : ∀ y, f y = some z ↔ y = x := fun y => ⟨hf hx, fun hy => hy ▸ hx⟩
      rw [List.filterMap_cons_some hx, List.filterMap_cons_some hx, List.eraseDups_cons, hrest,
        filterMap_filter_ne_some honly]
termination_by l => l.length
decreasing_by exact Nat.lt_succ_of_le (List.length_filter_le _ _)

namespace Operation

theorem eq_of_ne {first x y : Operation} (hx : x ≠ first) (hy : y ≠ first) : x = y := by
  cases first <;> cases x <;> cases y <;> simp at *

theorem beq_index_eq_iff {x y : Operation} : ((x == .index) = (y == .index)) ↔ x = y := by
  cases x <;> cases y <;> decide

/-- Without repetitions a list still ends as before, unless it comes back to its first operation. -/
theorem getLast?_eraseDups_eq_iff {operations : List Operation} {first last : Operation}
    (hfirst : operations.head? = some first) (hlast : operations.getLast? = some last) :
    operations.eraseDups.getLast? = some last ↔
      (last = first → ∀ operation ∈ operations, operation = first) := by
  obtain ⟨later, rfl⟩ := List.head?_eq_some_iff.mp hfirst
  rw [List.eraseDups_cons, List.getLast?_cons, Option.some.injEq]
  -- what is left behind the first operation is the other one, or nothing
  cases hrest : (later.filter fun y => !y == first).eraseDups.getLast? with
  | none =>
    have hall : ∀ operation ∈ first :: later, operation = first := by
      intro operation hmem
      rcases List.mem_cons.mp hmem with hsame | hlater
      · exact hsame
      · by_contra hne
        have hkept : operation ∈ (later.filter fun y => !y == first).eraseDups :=
          List.mem_eraseDups.mpr (List.mem_filter.mpr ⟨hlater, by simpa using hne⟩)
        rw [List.getLast?_eq_none_iff.mp hrest] at hkept
        exact List.not_mem_nil hkept
    have hsame : last = first := hall last (List.mem_of_getLast? hlast)
    exact iff_of_true hsame.symm fun _ => hall
  | some other =>
    have hmem : other ∈ later.filter fun y => !y == first :=
      List.mem_eraseDups.mp (List.mem_of_getLast? hrest)
    obtain ⟨hother, hne⟩ : other ∈ later ∧ other ≠ first := by simpa using hmem
    rw [Option.getD_some]
    constructor
    · rintro rfl hsame
      exact absurd hsame hne
    · intro hall
      have hlast : last ≠ first := fun hsame =>
        hne (hall hsame other (List.mem_cons_of_mem first hother))
      exact eq_of_ne hne hlast

end Operation

namespace Request

variable {entity : EntityName} {id : String}

theorem filterMap_operationOn?_eraseDups (requests : List Request) :
    requests.eraseDups.filterMap (operationOn? entity id) =
      (requests.filterMap (operationOn? entity id)).eraseDups := by
  refine filterMap_eraseDups ?_ requests
  intro x y operation hx hy
  rw [(operationOn?_eq_some entity id).mp hx, (operationOn?_eq_some entity id).mp hy]

theorem carryOutAll_of_getLast? {requests : List Request} {last : Operation}
    (hlast : (requests.filterMap (operationOn? entity id)).getLast? = some last) (present : Bool) :
    carryOutAll entity id requests present = (last == .index) := by
  rw [carryOutAll_eq, hlast]
  rfl

theorem carryOutAll_eraseDups_iff {requests : List Request} {first last : Operation}
    (hfirst : (requests.filterMap (operationOn? entity id)).head? = some first)
    (hlast : (requests.filterMap (operationOn? entity id)).getLast? = some last)
    (present : Bool) :
    carryOutAll entity id requests.eraseDups present = (last == .index) ↔
      (last = first →
        ∀ operation ∈ requests.filterMap (operationOn? entity id), operation = first) := by
  rw [← Operation.getLast?_eraseDups_eq_iff hfirst hlast, ← filterMap_operationOn?_eraseDups]
  have hkept : last ∈ requests.eraseDups.filterMap (operationOn? entity id) := by
    rw [filterMap_operationOn?_eraseDups]
    exact List.mem_eraseDups.mpr (List.mem_of_getLast? hlast)
  have hend := List.getLast?_eq_some_getLast (List.ne_nil_of_mem hkept)
  rw [carryOutAll_of_getLast? hend, hend, Option.some.injEq]
  exact Operation.beq_index_eq_iff

end Request

namespace Snapshot

variable {snapshot : Snapshot} {schema : Schema} {entity : EntityName} {id : String}

theorem filterMap_dependents (impact : Impact) (changed : EntityName) (changedId : String) :
    (dependents impact changed changedId).filterMap (Request.operationOn? entity id) = [] := by
  refine List.filterMap_eq_nil_iff.mpr fun request hrequest => ?_
  obtain ⟨root, back, _, _, rfl⟩ := mem_dependents.mp hrequest
  simp [Request.operationOn?, Request.ofDependents]

theorem filterMap_ownRequest (hentity : snapshot.catalog.isDirectlyIndexed entity = true)
    (changed : EntityName) (changedId : String) (operation : Operation) :
    (snapshot.ownRequest changed changedId operation).filterMap (Request.operationOn? entity id) =
      if changed = entity ∧ changedId = id then [operation] else [] := by
  by_cases hown : changed = entity ∧ changedId = id
  · obtain ⟨rfl, rfl⟩ := hown
    simp [ownRequest, hentity, Request.operationOn?, Request.ofInstance]
  · unfold ownRequest
    split <;> simp [hown, Request.operationOn?, Request.ofInstance]

/-- Of the requests of a change, at most the own one touches the document. -/
theorem filterMap_requestsOf (hentity : snapshot.catalog.isDirectlyIndexed entity = true)
    (haffected : snapshot.catalog.isAffected entity = true) (change : Change) :
    (snapshot.requestsOf change).filterMap (Request.operationOn? entity id) =
      if change.concerns entity id then [change.operation] else [] := by
  unfold requestsOf
  cases hchange : snapshot.catalog.isAffected change.entity with
  | false =>
    have hne : change.entity ≠ entity := by
      rintro rfl
      simp [hchange] at haffected
    simp [Change.concerns, hne]
  | true =>
    cases change with
    | created changed changedId =>
      simp [Change.concerns, Change.entity, Change.id, Change.operation,
        filterMap_ownRequest hentity]
    | updated changed changedId properties =>
      simp [Change.concerns, Change.entity, Change.id, Change.operation,
        filterMap_ownRequest hentity, filterMap_dependents]
    | deleted changed changedId =>
      simp [Change.concerns, Change.entity, Change.id, Change.operation,
        filterMap_ownRequest hentity, filterMap_dependents]

theorem filterMap_flatMap_requestsOf (hentity : snapshot.catalog.isDirectlyIndexed entity = true)
    (haffected : snapshot.catalog.isAffected entity = true) (changes : List Change) :
    (changes.flatMap snapshot.requestsOf).filterMap (Request.operationOn? entity id) =
      (changes.filter (Change.concerns entity id)).map Change.operation := by
  induction changes with
  | nil => rfl
  | cons change changes ih =>
    rw [List.flatMap_cons, List.filterMap_append, filterMap_requestsOf hentity haffected, ih]
    by_cases hchange : change.concerns entity id = true
    · rw [if_pos hchange, List.filter_cons_of_pos hchange, List.map_cons, List.singleton_append]
    · rw [if_neg hchange, List.filter_cons_of_neg hchange, List.nil_append]

end Snapshot

def Shop.recreation : List Change :=
  [.created "Order" "o1", .deleted "Order" "o1", .created "Order" "o1"]

namespace Tracker

variable {σ : Type} {schema : Schema} {config : Config} {definitions : List Definition}

/-- Carried out without leaving repetitions out, a batch leaves the document of an instance if and
only if the last change of the instance is no deletion. The plan of the batch does the same if and
only if the changes of the instance do not end on the operation that they began with after asking
for the other one. -/
theorem carryOut_plan_iff (tracker : Tracker σ)
    (hcompiled : (Compilation.compileDefinitions schema config definitions).outcome =
      .ok tracker.publication.snapshot)
    {entity : EntityName} {id : String} {changes : List Change} {first last : Change}
    (hentity : tracker.publication.snapshot.catalog.isDirectlyIndexed entity = true)
    (hids : ∀ change ∈ changes, change.id ≠ "")
    (hfirst : (changes.filter (Change.concerns entity id)).head? = some first)
    (hlast : (changes.filter (Change.concerns entity id)).getLast? = some last) :
    ∃ requests, tracker.plan changes = .ok requests ∧ ∀ present,
      Request.carryOutAll entity id (changes.flatMap tracker.publication.snapshot.requestsOf)
        present = (last.operation == .index) ∧
      (Request.carryOutAll entity id requests present = (last.operation == .index) ↔
        (last.operation = first.operation →
          ∀ change ∈ changes.filter (Change.concerns entity id),
            change.operation = first.operation)) := by
  have hreflects := Snapshot.reflects_of_compileDefinitions hcompiled
  have hindexes := Snapshot.declares_of_compileDefinitions hcompiled
  have haffected := hreflects.isAffected_of_isDirectlyIndexed
    (fun index hindex => (hindexes index hindex).1) hentity
  have hrequests : (changes.flatMap tracker.publication.snapshot.requestsOf).filterMap
      (Request.operationOn? entity id) =
        (changes.filter (Change.concerns entity id)).map Change.operation :=
    Snapshot.filterMap_flatMap_requestsOf hentity haffected changes
  have hbegin : ((changes.flatMap tracker.publication.snapshot.requestsOf).filterMap
      (Request.operationOn? entity id)).head? = some first.operation := by
    rw [hrequests, List.head?_map, hfirst, Option.map_some]
  have hend : ((changes.flatMap tracker.publication.snapshot.requestsOf).filterMap
      (Request.operationOn? entity id)).getLast? = some last.operation := by
    rw [hrequests, List.getLast?_map, hlast, Option.map_some]
  refine ⟨_, Snapshot.plan_eq_ok hids, fun present => ?_⟩
  refine ⟨Request.carryOutAll_of_getLast? hend present, ?_⟩
  rw [Request.carryOutAll_eraseDups_iff hbegin hend, hrequests, List.forall_mem_map]

theorem carryOut_plan_iff_shop :
    ∃ requests, Shop.tracker.plan [.created "Order" "o1", .deleted "Order" "o1"] = .ok requests ∧
      Request.carryOutAll "Order" "o1" requests true = false := by
  have hentity : Shop.tracker.publication.snapshot.catalog.isDirectlyIndexed "Order" = true := by
    decide +kernel
  have hown : [Change.created "Order" "o1", .deleted "Order" "o1"].filter
      (Change.concerns "Order" "o1") = [.created "Order" "o1", .deleted "Order" "o1"] := by
    decide
  obtain ⟨requests, hplan, hpresent⟩ := carryOut_plan_iff Shop.tracker Shop.outcome_definitions
    hentity (by decide) (congrArg List.head? hown) (congrArg List.getLast? hown)
  exact ⟨requests, hplan, (hpresent true).2.mpr (by decide)⟩

/-- An order that is created again after its deletion loses its document. -/
theorem carryOut_plan_recreation :
    ∃ requests, Shop.tracker.plan Shop.recreation = .ok requests ∧
      Request.carryOutAll "Order" "o1" requests true = false ∧
      Request.carryOutAll "Order" "o1"
        (Shop.recreation.flatMap Shop.tracker.publication.snapshot.requestsOf) true = true := by
  refine ⟨[.ofInstance "Order" "o1" .index, .ofInstance "Order" "o1" .delete], by rfl, ?_, ?_⟩
  · decide
  · decide +kernel

end Tracker

end Reindex
