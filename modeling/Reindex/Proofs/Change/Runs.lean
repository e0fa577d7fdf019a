import Reindex.Proofs.Change.Conservation
import Reindex.Proofs.Change.Exact
import Reindex.Proofs.Change.Rearranged

namespace Reindex

namespace Tracker

section Actions

variable {σ α β : Type}

namespace Action

@[simp] theorem run_get (tracker : Tracker σ) :
    (get : Action σ (Tracker σ)).run tracker = (.ok tracker, tracker) := rfl

theorem run_bind (action : Action σ α) (rest : α → Action σ β) (tracker : Tracker σ) :
    (action >>= rest).run tracker =
      match action.run tracker with
      | (.ok a, next) => (rest a).run next
      | (.error error, next) => (.error error, next) := by
  unfold run ExceptT.run StateT.run
  simp only [bind, ExceptT.bind, ExceptT.mk, StateT.bind, ExceptT.bindCont]
  cases action tracker with
  | mk outcome next => cases outcome <;> rfl

theorem run_map (f : α → β) (action : Action σ α) (tracker : Tracker σ) :
    (f <$> action).run tracker = ((action.run tracker).1.map f, (action.run tracker).2) := by
  have hbind : (f <$> action).run tracker = (action >>= fun a => pure (f a)).run tracker := rfl
  rw [hbind, run_bind]
  cases action.run tracker with
  | mk outcome next => cases outcome <;> rfl

theorem run_ofExcept (outcome : Except ChangeError α) (tracker : Tracker σ) :
    (MonadExcept.ofExcept outcome : Action σ α).run tracker = (outcome, tracker) := by
  cases outcome <;> rfl

/-- Where the action fails, it has done nothing. -/
def IsAtomic (action : Action σ α) : Prop :=
  ∀ tracker error, (action.run tracker).1 = .error error → (action.run tracker).2 = tracker

theorem IsAtomic.map {action : Action σ α} (h : IsAtomic action) (f : α → β) :
    IsAtomic (f <$> action) := by
  intro tracker error herror
  rw [run_map] at herror ⊢
  exact h tracker error (Result.map_eq_error.mp herror)

end Action

theorem run_track (changes : List Change) (tracker : Tracker σ) :
    (track changes).run tracker =
      match tracker.plan changes with
      | .error error => (.error error, tracker)
      | .ok [] => (.ok 0, tracker)
      | .ok (request :: requests) =>
        match tracker.sink.accept tracker.state (request :: requests) with
        | .error error => (.error error, tracker)
        | .ok (state, accepted) => (.ok accepted, { tracker with state }) := by
  rw [track, Action.run_bind, Action.run_get]
  dsimp only
  rw [Action.run_bind, Action.run_ofExcept]
  cases tracker.plan changes with
  | error error => rfl
  | ok requests =>
    cases requests with
    | nil => rfl
    | cons request requests =>
      simp only [List.isEmpty_cons, Bool.false_eq_true, if_false, Action.run_bind,
        Action.run_ofExcept]
      cases tracker.sink.accept tracker.state (request :: requests) <;> rfl

theorem run_rebuild (schema : Schema) (config : Config) (definitions : List Definition)
    (tracker : Tracker σ) :
    (rebuild schema config definitions).run tracker =
      match compiled schema config definitions with
      | .error error => (.error error, tracker)
      | .ok snapshot =>
        (.ok (), { tracker with publication := tracker.publication.replace snapshot }) := by
  rw [rebuild, Action.run_bind, Action.run_ofExcept]
  cases compiled schema config definitions <;> rfl

theorem isAtomic_track (changes : List Change) : (track changes : Action σ Nat).IsAtomic := by
  intro tracker error herror
  rw [run_track] at herror ⊢
  cases hplan : tracker.plan changes with
  | error error => rfl
  | ok requests =>
    cases requests with
    | nil => rfl
    | cons request requests =>
      cases haccept : tracker.sink.accept tracker.state (request :: requests) with
      | error error => simp only [haccept]
      | ok result => simp [hplan, haccept] at herror

theorem isAtomic_rebuild (schema : Schema) (config : Config) (definitions : List Definition) :
    (rebuild schema config definitions : Action σ Unit).IsAtomic := by
  intro tracker error herror
  rw [run_rebuild] at herror ⊢
  cases hcompiled : compiled schema config definitions with
  | error error => rfl
  | ok snapshot => simp [hcompiled] at herror

end Actions

inductive Call where
  | track (changes : List Change)
  | rebuild (schema : Schema) (config : Config) (definitions : List Definition)
  | queue (call : Queue.Call Request)

inductive Reply where
  | accepted (count : Nat)
  | rebuilt
  | taken (requests : List Request)

def onQueue (call : Queue.Call Request) : Action (Queue Request) (List Request) := do
  let tracker ← get
  let (taken, state) := tracker.state.call call
  set { tracker with state }
  return taken

def perform : Call → Action (Queue Request) Reply
  | .track changes => .accepted <$> track changes
  | .rebuild schema config definitions => (fun _ => .rebuilt) <$> rebuild schema config definitions
  | .queue call => .taken <$> onQueue call

def call (tracker : Tracker (Queue Request)) (call : Call) :
    Except ChangeError Reply × Tracker (Queue Request) :=
  (perform call).run tracker

def run (tracker : Tracker (Queue Request)) :
    List Call → List (Call × Except ChangeError Reply) × Tracker (Queue Request)
  | [] => ([], tracker)
  | call :: calls =>
    let (outcome, next) := tracker.call call
    let (rest, last) := next.run calls
    ((call, outcome) :: rest, last)

structure Source where
  schema : Schema
  config : Config
  definitions : List Definition

namespace Source

def tracker (source : Source) (queue : Queue Request) :
    Except ChangeError (Tracker (Queue Request)) :=
  ofDefinitions source.schema source.config source.definitions .queue queue

def after (source : Source) : Call × Except ChangeError Reply → Source
  | (.rebuild schema config definitions, .ok _) => ⟨schema, config, definitions⟩
  | _ => source

/-- The source of the last rebuild that succeeded, or else the first one. -/
def latest (source : Source) (log : List (Call × Except ChangeError Reply)) : Source :=
  log.foldl after source

end Source

variable {tracker : Tracker (Queue Request)} {source : Source}

theorem isAtomic_perform (asked : Call) : (perform asked).IsAtomic := by
  cases asked with
  | track changes => exact (isAtomic_track changes).map _
  | rebuild schema config definitions => exact (isAtomic_rebuild schema config definitions).map _
  | queue call =>
    intro tracker error herror
    cases herror

theorem call_track (changes : List Change) :
    tracker.call (.track changes) = (((track changes).run tracker).1.map .accepted,
      ((track changes).run tracker).2) :=
  Action.run_map _ _ _

theorem call_rebuild (schema : Schema) (config : Config) (definitions : List Definition) :
    tracker.call (.rebuild schema config definitions) =
      (((rebuild schema config definitions).run tracker).1.map fun _ => .rebuilt,
        ((rebuild schema config definitions).run tracker).2) :=
  Action.run_map _ _ _

theorem run_cons (asked : Call) (calls : List Call) :
    tracker.run (asked :: calls) =
      ((asked, (tracker.call asked).1) :: ((tracker.call asked).2.run calls).1,
        ((tracker.call asked).2.run calls).2) := rfl

/-- The calls that failed may be left out of a run. -/
theorem run_filter_isOk (tracker : Tracker (Queue Request)) (calls : List Call) :
    (tracker.run (((tracker.run calls).1.filter fun entry => entry.2.isOk).map Prod.fst)).2 =
      (tracker.run calls).2 := by
  induction calls generalizing tracker with
  | nil => rfl
  | cons asked calls ih =>
    rw [run_cons]
    cases houtcome : (tracker.call asked).1 with
    | ok reply =>
      rw [List.filter_cons_of_pos (by rfl), List.map_cons, run_cons]
      exact ih (tracker.call asked).2
    | error error =>
      -- a failed call leaves the tracker as it was, so the others meet the same one without it
      have hsame : (tracker.call asked).2 = tracker := isAtomic_perform asked tracker error houtcome
      rw [List.filter_cons_of_neg (by simp [Except.isOk, Except.toBool]), hsame]
      exact ih tracker

/-- The tracker was compiled from the source, and it fills a queue. -/
structure Follows (source : Source) (tracker : Tracker (Queue Request)) : Prop where
  sink : tracker.sink = .queue
  compiled : compiled source.schema source.config source.definitions =
    .ok tracker.publication.snapshot

theorem follows_of_tracker {queue : Queue Request} (h : source.tracker queue = .ok tracker) :
    Follows source tracker := by
  obtain ⟨snapshot, hcompiled, rfl⟩ := Result.map_eq_ok.mp h
  exact ⟨rfl, hcompiled⟩

namespace Follows

theorem run_track (h : Follows source tracker) (changes : List Change) :
    (track changes).run tracker =
      match tracker.plan changes with
      | .error error => (.error error, tracker)
      | .ok requests =>
        (.ok requests.length, { tracker with state := tracker.state.enqueue requests }) := by
  rw [Tracker.run_track]
  cases tracker.plan changes with
  | error error => rfl
  | ok requests =>
    cases requests with
    | nil =>
      -- an empty plan never reaches the queue, which it would not have changed
      have hsame : tracker.state.enqueue [] = tracker.state := by simp [Queue.enqueue]
      simp only [hsame, List.length_nil]
    | cons request requests =>
      obtain ⟨publication, sink, state⟩ := tracker
      obtain rfl : sink = .queue := h.sink
      rfl

theorem call (h : Follows source tracker) (asked : Call) :
    Follows (source.after (asked, (tracker.call asked).1)) (tracker.call asked).2 := by
  cases asked with
  | track changes =>
    rw [call_track, h.run_track]
    cases tracker.plan changes with
    | error error => exact h
    | ok requests => exact ⟨h.sink, h.compiled⟩
  | rebuild schema config definitions =>
    rw [call_rebuild, run_rebuild]
    cases hcompiled : Tracker.compiled schema config definitions with
    | error error => exact h
    | ok snapshot => exact ⟨h.sink, hcompiled⟩
  | queue call => exact ⟨h.sink, h.compiled⟩

theorem run (h : Follows source tracker) (calls : List Call) :
    Follows (source.latest (tracker.run calls).1) (tracker.run calls).2 := by
  induction calls generalizing source tracker with
  | nil => exact h
  | cons asked calls ih => exact ih (h.call asked)

theorem exists_tracker (h : Follows source tracker) (queue : Queue Request) :
    ∃ fresh, source.tracker queue = .ok fresh ∧ ∀ batch, tracker.plan batch = fresh.plan batch := by
  have hfresh : source.tracker queue =
      .ok ⟨.first tracker.publication.snapshot, .queue, queue⟩ := by
    rw [Source.tracker, ofDefinitions, h.compiled]
    rfl
  exact ⟨_, hfresh, fun batch => rfl⟩

theorem run_track_eq_ok (h : Follows source tracker) {batch : List Change} {accepted : Nat}
    {next : Tracker (Queue Request)} :
    (track batch).run tracker = (.ok accepted, next) ↔
      ∃ requests, tracker.plan batch = .ok requests ∧ accepted = requests.length ∧
        next = { tracker with state := tracker.state.enqueue requests } := by
  rw [h.run_track]
  cases tracker.plan batch <;> simp [eq_comm]

theorem call_track_eq_ok (h : Follows source tracker) {batch : List Change} {reply : Reply}
    {next : Tracker (Queue Request)} :
    tracker.call (.track batch) = (.ok reply, next) ↔
      ∃ requests, tracker.plan batch = .ok requests ∧ reply = .accepted requests.length ∧
        next = { tracker with state := tracker.state.enqueue requests } := by
  rw [call_track, h.run_track]
  cases tracker.plan batch <;> simp [Except.map, eq_comm]

end Follows

/-- After any calls, a call that fails changes nothing, as if it had not been made, and neither does
tracking a batch or a rebuild by itself. Batches are planned as by a new tracker made from the
schema, the configuration and the definitions of the last rebuild that succeeded. A batch is tracked
unless one of its changes has no id, and what is planned for it goes to the back of the queue. -/
theorem run_tracks_latest {queue : Queue Request} {first : Tracker (Queue Request)}
    (hfirst : source.tracker queue = .ok first) (calls : List Call) :
    (∀ asked error, ((first.run calls).2.call asked).1 = .error error →
      ((first.run calls).2.call asked).2 = (first.run calls).2) ∧
    (first.run (((first.run calls).1.filter fun entry => entry.2.isOk).map Prod.fst)).2 =
      (first.run calls).2 ∧
    (∀ batch error, ((track batch).run (first.run calls).2).1 = .error error →
      ((track batch).run (first.run calls).2).2 = (first.run calls).2) ∧
    (∀ schema config definitions error,
      ((rebuild schema config definitions).run (first.run calls).2).1 = .error error →
      ((rebuild schema config definitions).run (first.run calls).2).2 = (first.run calls).2) ∧
    ∃ fresh, (source.latest (first.run calls).1).tracker .empty = .ok fresh ∧
      (∀ batch, (first.run calls).2.plan batch = fresh.plan batch) ∧
      (∀ batch, (∃ reply, ((first.run calls).2.call (.track batch)).1 = .ok reply) ↔
        ∀ change ∈ batch, change.id ≠ "") ∧
      (∀ batch reply next, (first.run calls).2.call (.track batch) = (.ok reply, next) →
        ∃ requests, fresh.plan batch = .ok requests ∧ reply = .accepted requests.length ∧
          next = { (first.run calls).2 with state := (first.run calls).2.state.enqueue requests } ∧
          next.state.items = (first.run calls).2.state.items ++ requests) ∧
      ∀ batch accepted next, (track batch).run (first.run calls).2 = (.ok accepted, next) →
        ∃ requests, fresh.plan batch = .ok requests ∧ accepted = requests.length ∧
          next = { (first.run calls).2 with state := (first.run calls).2.state.enqueue requests } ∧
          next.state.items = (first.run calls).2.state.items ++ requests := by
  have hlast : Follows (source.latest (first.run calls).1) (first.run calls).2 :=
    (follows_of_tracker hfirst).run calls
  obtain ⟨fresh, hfresh, hplan⟩ := hlast.exists_tracker .empty
  refine ⟨fun asked => isAtomic_perform asked _, run_filter_isOk first calls,
    fun batch => isAtomic_track batch _,
    fun schema config definitions => isAtomic_rebuild schema config definitions _,
    fresh, hfresh, hplan, fun batch => ⟨?_, fun hids => ?_⟩, fun batch reply next hcall => ?_,
    fun batch accepted next htrack => ?_⟩
  · rintro ⟨reply, hreply⟩ change hchange hid
    obtain ⟨requests, hrequests, _⟩ := hlast.call_track_eq_ok.mp (Prod.ext hreply rfl)
    obtain ⟨error, herror⟩ := Snapshot.exists_plan_eq_error.mpr ⟨change, hchange, hid⟩
    cases hrequests.symm.trans herror
  · have hrequests := hlast.call_track_eq_ok.mpr ⟨_, Snapshot.plan_eq_ok hids, rfl, rfl⟩
    exact ⟨_, congrArg Prod.fst hrequests⟩
  · obtain ⟨requests, hrequests, rfl, rfl⟩ := hlast.call_track_eq_ok.mp hcall
    exact ⟨requests, (hplan batch).symm.trans hrequests, rfl, rfl, rfl⟩
  · obtain ⟨requests, hrequests, rfl, rfl⟩ := hlast.run_track_eq_ok.mp htrack
    exact ⟨requests, (hplan batch).symm.trans hrequests, rfl, rfl, rfl⟩

end Tracker

namespace Shop

def origin : Tracker.Source := ⟨schema, Config.standard, definitions⟩

/-- The first rebuild and the second batch fail. -/
def day : List Tracker.Call :=
  [.track reform,
    .rebuild schema strict circular,
    .track [.created "Order" "o1", .updated "Customer" "" ["name"]],
    .queue (.drain 1),
    .rebuild schema Config.standard listings,
    .track [.created "Customer" "c2"]]

end Shop

theorem Tracker.run_tracks_latest_shop :
    Shop.origin.tracker .empty = .ok Shop.tracker ∧
      (Shop.origin.latest (Shop.tracker.run Shop.day).1).definitions = Shop.listings ∧
      ∃ fresh, (Shop.origin.latest (Shop.tracker.run Shop.day).1).tracker .empty = .ok fresh ∧
        (Shop.tracker.run Shop.day).2.plan [.updated "Customer" "c2" ["name"]] =
          fresh.plan [.updated "Customer" "c2" ["name"]] := by
  have hfirst : Shop.origin.tracker .empty = .ok Shop.tracker := by rfl
  have hlatest : (Shop.origin.latest (Shop.tracker.run Shop.day).1).definitions =
      Shop.listings := by rfl
  obtain ⟨_, _, _, _, fresh, hfresh, hplan, _⟩ := run_tracks_latest hfirst Shop.day
  exact ⟨hfirst, hlatest, fresh, hfresh, hplan _⟩

end Reindex
