import Reindex.Proofs.Ancestors
import Reindex.Proofs.Dependency.Facts

namespace Reindex

namespace Entry

/-- The entry of the path, then that of the back path which it names, until a path has none. -/
inductive Climbs : Path → List Entry → Prop
  | stop {path : Path} (h : ofPath? path = none) : Climbs path []
  | step {path : Path} {entry : Entry} {entries : List Entry} (h : ofPath? path = some entry)
      (rest : Climbs entry.update.backPath entries) : Climbs path (entry :: entries)

variable {path : Path} {hop : Property} {entry : Entry} {entries : List Entry}

@[simp]
theorem ofPath?_ofRoot (root : EntityName) : ofPath? (.ofRoot root) = none := rfl

@[simp]
theorem ofPath?_child (path : Path) (hop : Property) :
    ofPath? (path.child hop) = some (ofHop path hop) := by
  rw [ofPath?, Path.parent?_child, Path.last?_child]
  rfl

theorem ofPath?_take {i : Nat} (hhop : path.hops[i]? = some hop) :
    ofPath? (path.take (i + 1)) = some (ofHop (path.take i) hop) := by
  rw [← Path.child_take hhop, ofPath?_child]

theorem chainFrom_concat (before : Path) (hops : List Property) (hop : Property) :
    chainFrom before (hops ++ [hop]) = ofHop (before.extend hops) hop :: chainFrom before hops := by
  induction hops generalizing before with
  | nil => simp [chainFrom]
  | cons first hops ih =>
    rw [List.cons_append, chainFrom, ih, List.cons_append, ← Path.extend_cons, chainFrom]

@[simp]
theorem chain_ofRoot (root : EntityName) : chain (.ofRoot root) = [] := rfl

theorem chain_child (path : Path) (hop : Property) :
    chain (path.child hop) = ofHop path hop :: chain path :=
  chainFrom_concat (.ofRoot path.root) path.hops hop

theorem chain_eq_nil (h : ofPath? path = none) : chain path = [] := by
  induction path using Path.child_induction with
  | root name => rfl
  | child path hop _ => simp at h

theorem chain_eq_cons (h : ofPath? path = some entry) :
    chain path = entry :: chain entry.update.backPath := by
  induction path using Path.child_induction with
  | root name => simp at h
  | child path hop _ =>
    rw [ofPath?_child, Option.some_inj] at h
    rw [← h, chain_child]
    rfl

theorem climbs_chain (path : Path) : Climbs path (chain path) := by
  induction path using Path.child_induction with
  | root name => exact .stop rfl
  | child path hop ih =>
    rw [chain_child]
    exact .step (ofPath?_child path hop) ih

theorem climbs_iff : Climbs path entries ↔ entries = chain path := by
  constructor
  · intro h
    induction h with
    | stop h => exact (chain_eq_nil h).symm
    | step h _ ih => rw [chain_eq_cons h, ih]
  · rintro rfl
    exact climbs_chain path

theorem length_chain (path : Path) : (chain path).length = path.length := by
  induction path using Path.child_induction with
  | root name => rfl
  | child path hop ih => rw [chain_child, List.length_cons, ih, Path.length_child]

theorem getElem?_chain (path : Path) (j : Nat) :
    (chain path)[j]? = ofPath? (path.take (path.length - j)) := by
  induction path using Path.child_induction generalizing j with
  | root name =>
    have htake : (Path.ofRoot name).take ((Path.ofRoot name).length - j) = .ofRoot name := by
      simp [Path.take, Path.ofRoot]
    rw [htake, chain_ofRoot, ofPath?_ofRoot, List.getElem?_nil]
  | child path hop ih =>
    rw [chain_child]
    cases j with
    | zero => rw [List.getElem?_cons_zero, Nat.sub_zero, Path.take_length, ofPath?_child]
    | succ j =>
      rw [List.getElem?_cons_succ, ih, Path.length_child, Nat.add_sub_add_right,
        Path.take_child (Nat.sub_le path.length j)]

theorem reached?_of_mem_chain (hchained : path.IsChained) (hentry : entry ∈ chain path) :
    entry.update.backPath.reached? = some entry.update.entity ∧
      ∀ deletion, entry.deletion = some deletion →
        deletion.backPath.reached? = some deletion.entity := by
  obtain ⟨i, hop, hhop, rfl⟩ := (mem_chain path entry).mp hentry
  refine ⟨hchained.reached?_take hhop, fun deletion hdeletion => ?_⟩
  obtain ⟨target, htarget, rfl⟩ := Option.map_eq_some_iff.mp hdeletion
  rw [Path.reached?_child, htarget]

/-- Following back paths comes to an end, with one entry for each hop. The entry at a place is that
of the path without as many hops: its update is a change of the last property that is left, found
from the hops before it, and its deletion is that of the target if the property is a reference. On a
chained path each back path reaches the type that its fact is about. -/
theorem chain_exact (path : Path) :
    (∀ entries, Climbs path entries ↔ entries = chain path) ∧
    (chain path).length = path.length ∧
    (∀ j < path.length, ∃ hop entry, (path.take (path.length - j)).last? = some hop ∧
      (chain path)[j]? = some entry ∧ ofPath? (path.take (path.length - j)) = some entry ∧
      entry.update = ⟨hop.owner, hop.name, path.take (path.length - j - 1)⟩ ∧
      (∀ kind, hop.range = .scalar kind → entry.deletion = none) ∧
      ∀ target cardinality, hop.range = .reference target cardinality →
        entry.deletion = some ⟨target, path.take (path.length - j)⟩) ∧
    (path.IsChained → ∀ entry ∈ chain path,
      entry.update.backPath.reached? = some entry.update.entity ∧
      ∀ deletion, entry.deletion = some deletion →
        deletion.backPath.reached? = some deletion.entity) ∧
    (0 < path.length → ∃ entry before, ofPath? path = some entry ∧ path.parent? = some before ∧
      chain path = entry :: chain before) := by
  refine ⟨fun _ => climbs_iff, length_chain path, fun j hj => ?_, fun hchained _ =>
    reached?_of_mem_chain hchained, fun hpos => ?_⟩
  · obtain ⟨i, hi⟩ : ∃ i, path.length - j = i + 1 := ⟨path.length - j - 1, by omega⟩
    have hlt : i < path.length := by omega
    obtain ⟨hop, hhop⟩ : ∃ hop, path.hops[i]? = some hop := ⟨_, List.getElem?_eq_getElem hlt⟩
    rw [getElem?_chain, hi, Nat.add_sub_cancel, ofPath?_take hhop, ← Path.child_take hhop]
    refine ⟨hop, _, Path.last?_child _ hop, rfl, rfl, rfl, ?_, ?_⟩
    · intro kind hrange
      simp [ofHop, hrange, Range.target?]
    · intro target cardinality hrange
      simp [ofHop, hrange, Range.target?]
  · obtain ⟨before, hop, rfl⟩ := Path.exists_eq_child (List.ne_nil_of_length_pos hpos)
    exact ⟨_, before, ofPath?_child before hop, Path.parent?_child before hop,
      chain_child before hop⟩

end Entry

def Friends.distantName : Path := ⟨"Person", [friend, friend, name]⟩

/-- There are three entries. The one in the middle is that of the second friend, whose deletion cuts
the path; what follows the first one are the entries of the way to that friend. -/
theorem Entry.chain_exact_friends :
    Friends.distantName.IsChained ∧
    Climbs Friends.distantName (chain Friends.distantName) ∧
    (chain Friends.distantName).length = 3 ∧
    (∃ entry, (chain Friends.distantName)[1]? = some entry ∧
      entry.update = ⟨"Person", "friend", Friends.distantName.take 1⟩ ∧
      entry.deletion = some ⟨"Person", Friends.distantName.take 2⟩) ∧
    (∀ entry ∈ chain Friends.distantName,
      entry.update.backPath.reached? = some entry.update.entity) ∧
    ∃ entry, chain Friends.distantName = entry :: chain (Friends.distantName.take 2) := by
  obtain ⟨hclimbs, hlength, hentries, hreached, hparent⟩ := chain_exact Friends.distantName
  have hchained : Friends.distantName.IsChained := by decide
  obtain ⟨hop, middle, hlast, hmiddle, _, hupdate, _, hdeletion⟩ := hentries 1 (by decide)
  obtain rfl : Friends.friend = hop := Option.some_inj.mp hlast
  obtain ⟨first, before, _, hbefore, hchain⟩ := hparent (by decide)
  obtain rfl : Friends.distantName.take 2 = before := Option.some_inj.mp hbefore
  exact ⟨hchained, (hclimbs _).mpr rfl, hlength, ⟨middle, hmiddle, hupdate, hdeletion _ _ rfl⟩,
    fun entry hentry => (hreached hchained entry hentry).1, first, hchain⟩

end Reindex
