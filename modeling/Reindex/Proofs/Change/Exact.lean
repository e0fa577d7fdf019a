import Reindex.Proofs.Change.Gate
import Reindex.Proofs.Repetition

namespace Reindex

/-- Among the requests of one change the own document comes first, and the dependents are ordered by
root and then by back path. -/
inductive Request.Before : Request → Request → Prop
  | own {entity changed root : EntityName} {id changedId : String} {operation : Operation}
      {back : Path} :
      Before (.ofInstance entity id operation) ⟨root, .dependents back changed changedId, .index⟩
  | root {root root' entity : EntityName} {id : String} {back back' : Path}
      (hroot : compare root root' = .lt) :
      Before ⟨root, .dependents back entity id, .index⟩ ⟨root', .dependents back' entity id, .index⟩
  | back {root entity : EntityName} {id : String} {back back' : Path}
      (hback : compare back back' = .lt) :
      Before ⟨root, .dependents back entity id, .index⟩ ⟨root, .dependents back' entity id, .index⟩

namespace Snapshot

variable {schema : Schema} {config : Config} {snapshot : Snapshot}

/-- The first change to demand either request demands the former, and the latter at most after it.
-/
def Precedes (snapshot : Snapshot) (changes : List Change) (request other : Request) : Prop :=
  ∃ earlier change later, changes = earlier ++ change :: later ∧
    (∀ before ∈ earlier, ¬snapshot.Demands before request ∧ ¬snapshot.Demands before other) ∧
    snapshot.Demands change request ∧ (snapshot.Demands change other → request.Before other)

theorem Precedes.cons {changes : List Change} {change : Change} {request other : Request}
    (hrequest : ¬snapshot.Demands change request) (hother : ¬snapshot.Demands change other)
    (h : snapshot.Precedes changes request other) :
    snapshot.Precedes (change :: changes) request other := by
  obtain ⟨earlier, first, later, rfl, hearlier, hfirst, hlatter⟩ := h
  refine ⟨change :: earlier, first, later, rfl, ?_, hfirst, hlatter⟩
  exact List.forall_mem_cons.mpr ⟨⟨hrequest, hother⟩, hearlier⟩

theorem plan_eq_error {changes : List Change} {error : ChangeError} :
    snapshot.plan changes = .error error ↔
      ∃ change, changes.find? (fun change => change.id == "") = some change ∧
        error = .invalidEvent (.missingId change.entity) := by
  rw [plan_eq]
  cases hfirst : changes.find? (fun change => change.id == "") with
  | none => simp
  | some change => simp [eq_comm]

theorem exists_plan_eq_error {changes : List Change} :
    (∃ error, snapshot.plan changes = .error error) ↔ ∃ change ∈ changes, change.id = "" := by
  constructor
  · rintro ⟨error, herror⟩
    obtain ⟨change, hfirst, _⟩ := plan_eq_error.mp herror
    exact ⟨change, List.mem_of_find?_eq_some hfirst, by simpa using List.find?_some hfirst⟩
  · rintro ⟨change, hchange, hid⟩
    have hsome : (changes.find? (fun change => change.id == "")).isSome :=
      List.find?_isSome.mpr ⟨change, hchange, by simpa using hid⟩
    obtain ⟨first, hfirst⟩ := Option.isSome_iff_exists.mp hsome
    exact ⟨_, plan_eq_error.mpr ⟨first, hfirst, rfl⟩⟩

theorem pairwise_dependents (impact : Impact) (entity : EntityName) (id : String) :
    (dependents impact entity id).Pairwise Request.Before := by
  refine List.pairwise_flatMap.mpr ⟨fun ⟨root, paths⟩ hgroup => ?_, ?_⟩
  · obtain ⟨_, rfl⟩ := Buckets.mem_groups.mp hgroup
    have hordered := (Buckets.ordered_under impact root).filter (fun path => !path.isEmpty)
    exact List.Pairwise.map _ (fun _ _ hback => .back hback) hordered
  · refine (Buckets.ordered_groups impact).imp fun hroot request hrequest other hother => ?_
    obtain ⟨back, _, rfl⟩ := List.mem_map.mp hrequest
    obtain ⟨back', _, rfl⟩ := List.mem_map.mp hother
    exact .root hroot

theorem pairwise_ownRequest_append (entity : EntityName) (id : String) (operation : Operation)
    (impact : Impact) :
    (snapshot.ownRequest entity id operation ++ dependents impact entity id).Pairwise
      Request.Before := by
  refine List.pairwise_append.mpr ⟨?_, pairwise_dependents impact entity id, ?_⟩
  · unfold ownRequest
    split <;> simp
  · intro own hown request hrequest
    obtain ⟨_, rfl⟩ := mem_ownRequest.mp hown
    obtain ⟨root, back, _, _, rfl⟩ := mem_dependents.mp hrequest
    exact .own

theorem pairwise_ungatedRequestsOf (change : Change) :
    (snapshot.ungatedRequestsOf change).Pairwise Request.Before := by
  cases change with
  | created entity id =>
    change (snapshot.ownRequest entity id .index).Pairwise Request.Before
    unfold ownRequest
    split <;> simp
  | updated entity id properties => exact pairwise_ownRequest_append entity id .index _
  | deleted entity id => exact pairwise_ownRequest_append entity id .delete _

/-- Without repetitions the requests of a batch stand in the order of their first demands. -/
theorem pairwise_precedes (changes : List Change) :
    (changes.flatMap snapshot.ungatedRequestsOf).eraseDups.Pairwise
      (snapshot.Precedes changes) := by
  induction changes with
  | nil => simp
  | cons change changes ih =>
    -- of the later requests only those stay that the first change does not demand
    have hout : ∀ request ∈ (changes.flatMap snapshot.ungatedRequestsOf).eraseDups.filter
        (fun request => request ∉ snapshot.ungatedRequestsOf change),
        ¬snapshot.Demands change request := by
      intro request hrequest hdemands
      exact of_decide_eq_true (List.mem_filter.mp hrequest).2 (mem_ungatedRequestsOf.mpr hdemands)
    rw [List.flatMap_cons, Repetition.eraseDups_append]
    refine List.pairwise_append.mpr ⟨?_, ?_, ?_⟩
    · have hown : (snapshot.ungatedRequestsOf change).eraseDups.Pairwise Request.Before :=
        (pairwise_ungatedRequestsOf change).sublist (Repetition.sublist_eraseDups _)
      refine hown.imp_of_mem fun {request other} hrequest _ hbefore => ?_
      have hdemands := mem_ungatedRequestsOf.mp (List.mem_eraseDups.mp hrequest)
      exact ⟨[], change, changes, rfl, by simp, hdemands, fun _ => hbefore⟩
    · refine (ih.filter _).imp_of_mem fun {request other} hrequest hother hprecedes => ?_
      exact hprecedes.cons (hout request hrequest) (hout other hother)
    · intro request hrequest other hother
      have hdemands := mem_ungatedRequestsOf.mp (List.mem_eraseDups.mp hrequest)
      exact ⟨[], change, changes, rfl, by simp, hdemands, fun h => absurd h (hout other hother)⟩

end Snapshot

namespace Shop

def toBuyer : Path := ⟨"Order", [orderBuyer]⟩

def reform : List Change :=
  [.deleted "Company" "k1", .updated "Customer" "c1" ["name", "company"],
    .updated "Customer" "c1" ["company"], .created "Visit" "v1"]

end Shop

namespace Tracker

variable {σ : Type} {schema : Schema} {config : Config}

/-- A batch is refused if and only if one of its changes has no instance id, and then for the first
such change, be its type tracked or not. Otherwise the plan holds exactly the requests that the
changes demand, none of them twice, in the order of their first demands. -/
theorem plan_exact {definitions : List Definition} (tracker : Tracker σ)
    (hcompiled : (Compilation.compileDefinitions schema config definitions).outcome =
      .ok tracker.publication.snapshot)
    (changes : List Change) :
    ((∃ error, tracker.plan changes = .error error) ↔ ∃ change ∈ changes, change.id = "") ∧
    (∀ error, tracker.plan changes = .error error → ∃ earlier change later,
      changes = earlier ++ change :: later ∧ (∀ before ∈ earlier, before.id ≠ "") ∧
        change.id = "" ∧ error = .invalidEvent (.missingId change.entity)) ∧
    ((∀ change ∈ changes, change.id ≠ "") → ∃ requests, tracker.plan changes = .ok requests ∧
      requests.Nodup ∧ requests.Pairwise (tracker.publication.snapshot.Precedes changes) ∧
      ∀ request, request ∈ requests ↔
        ∃ change ∈ changes, tracker.publication.snapshot.Demands change request) := by
  have hrequests := Snapshot.requestsOf_of_compileDefinitions hcompiled
  have hok : (∀ change ∈ changes, change.id ≠ "") → tracker.plan changes =
      .ok (changes.flatMap tracker.publication.snapshot.ungatedRequestsOf).eraseDups :=
    fun hids => hrequests ▸ Snapshot.plan_eq_ok hids
  refine ⟨Snapshot.exists_plan_eq_error, fun error herror => ?_, fun hids => ⟨_, hok hids, ?_⟩⟩
  · obtain ⟨change, hfirst, rfl⟩ := Snapshot.plan_eq_error.mp herror
    obtain ⟨hid, earlier, later, hchanges, hearlier⟩ := List.find?_eq_some_iff_append.mp hfirst
    refine ⟨earlier, change, later, hchanges, fun before hbefore => ?_, beq_iff_eq.mp hid, rfl⟩
    simpa using hearlier before hbefore
  · refine ⟨Repetition.nodup_eraseDups _, Snapshot.pairwise_precedes changes, fun request => ?_⟩
    simp only [List.mem_eraseDups, List.mem_flatMap, Snapshot.mem_ungatedRequestsOf]

theorem plan_exact_shop :
    ∃ requests, Shop.tracker.plan Shop.reform = .ok requests ∧ requests.Nodup ∧
      requests.Pairwise (Shop.snapshot.Precedes Shop.reform) ∧
      ⟨"Order", .dependents Shop.toBuyer "Customer" "c1", .index⟩ ∈ requests := by
  obtain ⟨_, _, hplan⟩ := plan_exact Shop.tracker Shop.outcome_definitions Shop.reform
  obtain ⟨requests, hrequests, hnodup, hordered, hmem⟩ := hplan (by decide)
  have hlists : (Shop.snapshot.impactOfUpdate "Customer" ["name", "company"]).Lists "Order"
      Shop.toBuyer :=
    Impact.lists_iff.mpr (by decide +kernel)
  refine ⟨requests, hrequests, hnodup, hordered, (hmem _).mpr ⟨_, ?_, .updatedBelow hlists ?_⟩⟩
  · exact List.mem_cons_of_mem _ List.mem_cons_self
  · decide

end Tracker

end Reindex
