import Mathlib.Logic.Relation
import Reindex.Proofs.Chains

namespace Reindex

namespace Path

/-- The root owns the first hop, the target of each hop owns the next one, and scalars only come
last. A hop counts by its place, as the same one may be taken again. -/
structure Linked (root : EntityName) (hops : List Property) : Prop where
  first : ∀ hop, hops[0]? = some hop → hop.owner = root
  next : ∀ i hop later, hops[i]? = some hop → hops[i + 1]? = some later →
    hop.range.target? = some later.owner
  inner : ∀ i hop, hops[i]? = some hop → i + 1 < hops.length → hop.isReference = true

/-- The other path is what is left when the last hop is taken back any number of times. -/
def Ascends : Path → Path → Prop :=
  Relation.ReflTransGen fun path before => path.parent? = some before

variable {root : EntityName} {hop : Property} {hops : List Property}
  {path before other third : Path}

theorem linked_cons : Linked root (hop :: hops) ↔ hop.owner = root ∧
    match hop.range.target? with
    | some target => Linked target hops
    | none => hops = [] := by
  constructor
  · intro h
    refine ⟨h.first hop rfl, ?_⟩
    cases htarget : hop.range.target? with
    | none =>
      cases hops with
      | nil => rfl
      | cons later rest =>
        have hreference := h.inner 0 hop rfl (by simp)
        simp [Property.isReference, Range.isReference, htarget] at hreference
    | some target =>
      refine ⟨fun later hlater => ?_, fun i => h.next (i + 1), fun i later hlater hi => ?_⟩
      · have hnext := h.next 0 hop later rfl hlater
        rw [htarget, Option.some.injEq] at hnext
        exact hnext.symm
      · exact h.inner (i + 1) later hlater (by simpa using hi)
  · rintro ⟨howner, hrest⟩
    cases htarget : hop.range.target? with
    | none =>
      obtain rfl : hops = [] := by simpa [htarget] using hrest
      exact ⟨by simpa using howner, by simp, by simp⟩
    | some target =>
      have hrest : Linked target hops := by simpa [htarget] using hrest
      refine ⟨by simpa using howner, fun i => ?_, fun i => ?_⟩
      · cases i with
        | zero =>
          rintro _ later ⟨⟩ hlater
          rw [htarget, hrest.first later hlater]
        | succ i => exact hrest.next i
      · cases i with
        | zero =>
          rintro _ ⟨⟩ _
          simp [Property.isReference, Range.isReference, htarget]
        | succ i => exact fun later hlater hi => hrest.inner i later hlater (by simpa using hi)

theorem chainedFrom_iff_linked : chainedFrom root hops = true ↔ Linked root hops := by
  induction hops generalizing root with
  | nil =>
    refine ⟨fun _ => ⟨by simp, by simp, by simp⟩, fun _ => rfl⟩
  | cons hop hops ih =>
    rw [chainedFrom_cons, linked_cons]
    cases hop.range.target? with
    | none => exact Iff.rfl
    | some target => exact and_congr_right fun _ => ih

theorem ofHops?_eq_some :
    ofHops? root hops = some path ↔ path = ⟨root, hops⟩ ∧ path.IsChained := by
  unfold ofHops?
  split
  · next hchained =>
    rw [Option.some.injEq]
    constructor
    · rintro rfl
      exact ⟨rfl, hchained⟩
    · rintro ⟨rfl, _⟩
      rfl
  · next hbroken =>
    simp only [reduceCtorEq, false_iff]
    rintro ⟨rfl, hchained⟩
    exact hbroken hchained

@[simp]
theorem parent?_child (path : Path) (hop : Property) : (path.child hop).parent? = some path := by
  simp [parent?, child]

@[simp]
theorem last?_child (path : Path) (hop : Property) : (path.child hop).last? = some hop := by
  simp [last?, child]

theorem parent?_eq_some : path.parent? = some before ↔ ∃ hop, path = before.child hop := by
  constructor
  · intro h
    have hne : path.hops ≠ [] := by
      intro hnil
      simp [parent?, hnil] at h
    obtain ⟨start, hop, rfl⟩ := exists_eq_child hne
    rw [parent?_child, Option.some.injEq] at h
    exact ⟨hop, congrArg (child · hop) h⟩
  · rintro ⟨hop, rfl⟩
    exact parent?_child before hop

theorem isChained_child :
    (path.child hop).IsChained ↔ path.IsChained ∧ path.reached? = some hop.owner := by
  constructor
  · intro h
    have hhop : (path.child hop).hops[path.hops.length]? = some hop := by simp [child]
    have htake : (path.child hop).take path.hops.length = path := by simp [take, child]
    have hbefore := h.take hhop
    have hreached := h.reached?_take hhop
    rw [htake] at hbefore hreached
    exact ⟨hbefore, hreached⟩
  · rintro ⟨hchained, hreached⟩
    exact hchained.child hreached rfl

theorem ascends_extend (path : Path) (rest : List Property) :
    (path.extend rest).Ascends path := by
  induction rest generalizing path with
  | nil =>
    rw [extend_nil]
    exact .refl
  | cons hop rest ih =>
    rw [extend_cons]
    exact (ih (path.child hop)).tail (parent?_child path hop)

theorem startsWith_iff_ascends : path.startsWith other = true ↔ path.Ascends other := by
  rw [startsWith_iff]
  constructor
  · rintro ⟨rest, rfl⟩
    exact ascends_extend other rest
  · intro h
    induction h using Relation.ReflTransGen.head_induction_on with
    | refl => exact ⟨[], (extend_nil other).symm⟩
    | head hparent _ ih =>
      obtain ⟨hop, rfl⟩ := parent?_eq_some.mp hparent
      obtain ⟨rest, rfl⟩ := ih
      exact ⟨rest ++ [hop], (extend_concat other rest hop).symm⟩

theorem startsWith_antisymm (h : path.startsWith other = true)
    (hback : other.startsWith path = true) : path = other := by
  obtain ⟨hroot, hprefix⟩ := startsWith_iff_hops.mp h
  obtain ⟨_, hprefix'⟩ := startsWith_iff_hops.mp hback
  have hhops : other.hops = path.hops := hprefix.eq_of_length_le hprefix'.length_le
  cases path
  cases other
  simp_all

/-- Of two ancestors of one path, one is an ancestor of the other. -/
theorem startsWith_total_of_startsWith (h : path.startsWith other = true)
    (hthird : path.startsWith third = true) :
    other.startsWith third = true ∨ third.startsWith other = true := by
  obtain ⟨hroot, hprefix⟩ := startsWith_iff_hops.mp h
  obtain ⟨hroot', hprefix'⟩ := startsWith_iff_hops.mp hthird
  rw [startsWith_iff_hops, startsWith_iff_hops, ← hroot, ← hroot']
  simpa using (List.prefix_or_prefix_of_prefix hprefix hprefix').symm

/-- Hops make up a path if and only if they are linked, place by place. So does what is left when
the last one is taken back, and one more hop may follow if and only if the type that is reached owns
it. Parent and last hop of a path are what it is the child of. A path starts with another one if and
only if it goes up to it; this is an order, and of two ancestors of a path one is an ancestor of the
other. -/
theorem ancestry_exact :
    (∀ root hops path, ofHops? root hops = some path ↔ path = ⟨root, hops⟩ ∧ path.IsChained) ∧
    (∀ path : Path, path.IsChained ↔ Linked path.root path.hops) ∧
    (∀ path before : Path, path.IsChained → path.parent? = some before → before.IsChained) ∧
    (∀ (path : Path) (hop : Property),
      ((path.child hop).IsChained ↔ path.IsChained ∧ path.reached? = some hop.owner) ∧
      (path.child hop).parent? = some path ∧ (path.child hop).last? = some hop) ∧
    (∀ path : Path, path.hops ≠ [] → ∃ before hop,
      path.parent? = some before ∧ path.last? = some hop ∧ before.child hop = path) ∧
    (∀ path other : Path, path.startsWith other = true ↔ path.Ascends other) ∧
    (∀ path : Path, path.startsWith path = true) ∧
    (∀ path other third : Path, path.startsWith other = true → other.startsWith third = true →
      path.startsWith third = true) ∧
    (∀ path other : Path, path.startsWith other = true → other.startsWith path = true →
      path = other) ∧
    ∀ path other third : Path, path.startsWith other = true → path.startsWith third = true →
      other.startsWith third = true ∨ third.startsWith other = true := by
  refine ⟨fun _ _ _ => ofHops?_eq_some, fun _ => chainedFrom_iff_linked, ?_, fun path hop =>
    ⟨isChained_child, parent?_child path hop, last?_child path hop⟩, ?_,
    fun _ _ => startsWith_iff_ascends, ?_, ?_, fun _ _ => startsWith_antisymm,
    fun _ _ _ => startsWith_total_of_startsWith⟩
  · intro path before hchained hparent
    obtain ⟨hop, rfl⟩ := parent?_eq_some.mp hparent
    exact (isChained_child.mp hchained).1
  · intro path hne
    obtain ⟨before, hop, rfl⟩ := exists_eq_child hne
    exact ⟨before, hop, parent?_child before hop, last?_child before hop, rfl⟩
  · intro path
    exact startsWith_iff_ascends.mpr .refl
  · intro path other third h hthird
    rw [startsWith_iff_ascends] at h hthird ⊢
    exact h.trans hthird

end Path

namespace Friends

def friend : Property := ⟨"Person", "friend", .reference "Person" .one⟩

def name : Property := ⟨"Person", "name", .scalar .string⟩

end Friends

theorem Path.ancestry_exact_friends :
    ofHops? "Person" [Friends.friend, Friends.friend, Friends.name] =
      some ⟨"Person", [Friends.friend, Friends.friend, Friends.name]⟩ ∧
    (Path.mk "Person" [Friends.friend, Friends.friend]).IsChained ∧
    ¬(Path.mk "Person" [Friends.friend, Friends.name, Friends.name]).IsChained ∧
    (Path.mk "Person" [Friends.friend, Friends.friend, Friends.name]).startsWith
      (.ofRoot "Person") = true ∧
    (Path.mk "Person" [Friends.friend, Friends.friend]).Ascends (.ofRoot "Person") := by
  obtain ⟨haccepted, _, hparent, hchild, _, hascends, _, htrans, _, _⟩ := ancestry_exact
  have hchained : (Path.mk "Person" [Friends.friend, Friends.friend, Friends.name]).IsChained := by
    decide
  have hbefore : (Path.mk "Person" [Friends.friend, Friends.friend]).IsChained :=
    hparent ⟨"Person", [Friends.friend, Friends.friend, Friends.name]⟩ _ hchained rfl
  refine ⟨(haccepted _ _ _).mpr ⟨rfl, hchained⟩, hbefore, fun h => ?_, ?_, ?_⟩
  · obtain ⟨_, hreached⟩ := (hchild ⟨"Person", [Friends.friend, Friends.name]⟩ _).1.mp h
    cases hreached
  · exact htrans _ ⟨"Person", [Friends.friend, Friends.friend]⟩ _ (by decide) (by decide)
  · exact (hascends _ _).mp (by decide)

end Reindex
