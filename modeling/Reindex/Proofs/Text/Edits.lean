import Mathlib.Data.List.Induction
import Mathlib.Order.Bounds.Basic
import Reindex.Error
import Reindex.Text.EditDistance

namespace Reindex.Text.EditDistance

inductive Edit : List Char → List Char → Prop
  | insert (before after : List Char) (c : Char) : Edit (before ++ after) (before ++ c :: after)
  | delete (before after : List Char) (c : Char) : Edit (before ++ c :: after) (before ++ after)
  | replace (before after : List Char) (c d : Char) :
      Edit (before ++ c :: after) (before ++ d :: after)

/-- So many edits, one after the other, turn the first text into the second. -/
inductive Script : Nat → List Char → List Char → Prop
  | done (s : List Char) : Script 0 s s
  | step {count : Nat} {s t u : List Char} : Edit s t → Script count t u → Script (count + 1) s u

variable {s t u : List Char} {c d : Char} {count : Nat}

theorem Edit.symm (h : Edit s t) : Edit t s := by
  cases h with
  | insert before after c => exact .delete before after c
  | delete before after c => exact .insert before after c
  | replace before after c d => exact .replace before after d c

theorem Edit.append (h : Edit s t) (rest : List Char) : Edit (s ++ rest) (t ++ rest) := by
  cases h with
  | insert before after c => simpa using Edit.insert before (after ++ rest) c
  | delete before after c => simpa using Edit.delete before (after ++ rest) c
  | replace before after c d => simpa using Edit.replace before (after ++ rest) c d

theorem Edit.insert_last (s : List Char) (c : Char) : Edit s (s ++ [c]) := by
  simpa using Edit.insert s [] c

theorem Edit.replace_last (s : List Char) (c d : Char) : Edit (s ++ [c]) (s ++ [d]) :=
  .replace s [] c d

namespace Script

theorem trans {more : Nat} (h : Script count s t) (h' : Script more t u) :
    Script (count + more) s u := by
  induction h with
  | done s => simpa using h'
  | @step count _ _ _ hedit _ ih =>
    have hcount : count + 1 + more = count + more + 1 := by omega
    rw [hcount]
    exact .step hedit (ih h')

theorem concat (h : Script count s t) (hedit : Edit t u) : Script (count + 1) s u :=
  h.trans (.step hedit (.done u))

theorem symm (h : Script count s t) : Script count t s := by
  induction h with
  | done s => exact .done s
  | step hedit _ ih => exact ih.concat hedit.symm

theorem append (h : Script count s t) (rest : List Char) :
    Script count (s ++ rest) (t ++ rest) := by
  induction h with
  | done s => exact .done (s ++ rest)
  | step hedit _ ih => exact .step (hedit.append rest) ih

theorem min {other : Nat} (h : Script count s t) (h' : Script other s t) :
    Script (min count other) s t := by
  rcases Nat.le_total count other with hle | hle
  · rwa [Nat.min_eq_left hle]
  · rwa [Nat.min_eq_right hle]

theorem zero_iff : Script 0 s t ↔ s = t := by
  constructor
  · intro h
    cases h
    rfl
  · rintro rfl
    exact .done s

end Script

theorem length_extendRow {corner : Nat} {row : List Nat} (h : row.length = t.length + 1) :
    (extendRow c corner t row).length = t.length := by
  induction t generalizing corner row with
  | nil => simp [extendRow]
  | cons e t ih =>
    match row, h with
    | diagonal :: above :: rest, h =>
      rw [extendRow, List.length_cons, List.length_cons, ih (by simpa using h)]

theorem extendRow_concat (c d : Char) (corner above : Nat) {row : List Nat}
    (h : row.length = t.length + 1) :
    extendRow c corner (t ++ [d]) (row ++ [above]) =
      extendRow c corner t row ++
        [min (min (above + 1) ((extendRow c corner t row).getLastD corner + 1))
          (row.getLastD 0 + if c = d then 0 else 1)] := by
  induction t generalizing corner row with
  | nil =>
    match row, h with
    | [diagonal], _ => simp [extendRow]
  | cons e t ih =>
    match row, h with
    | diagonal :: next :: rest, h =>
      have hlength : (next :: rest).length = t.length + 1 := by simpa using h
      have hrest :=
        ih (min (min (next + 1) (corner + 1)) (diagonal + if c = e then 0 else 1)) hlength
      simp only [List.cons_append] at hrest
      simp only [extendRow, List.cons_append, hrest, List.getLastD_cons]

theorem length_nextRow {row : List Nat} (h : row.length = t.length + 1) :
    (nextRow t row c).length = t.length + 1 := by
  match row, h with
  | first :: rest, h => rw [nextRow, List.length_cons, length_extendRow h]

theorem nextRow_concat {above : Nat} {row : List Nat} (h : row.length = t.length + 1) :
    nextRow (t ++ [d]) (row ++ [above]) c =
      nextRow t row c ++
        [min (min (above + 1) ((nextRow t row c).getLastD 0 + 1))
          (row.getLastD 0 + if c = d then 0 else 1)] := by
  match row, h with
  | first :: rest, h =>
    have hrest := extendRow_concat c d (first + 1) above h
    simp only [List.cons_append] at hrest
    simp only [nextRow, List.cons_append, hrest, List.getLastD_cons]

theorem row_concat_left (s t : List Char) (c : Char) :
    row (s ++ [c]) t = nextRow t (row s t) c := by
  rw [row, List.foldl_append]
  rfl

theorem length_row (s t : List Char) : (row s t).length = t.length + 1 := by
  induction s using List.reverseRecOn with
  | nil => simp [row]
  | append_singleton s c ih => rw [row_concat_left, length_nextRow ih]

theorem distance_eq_getLastD (s t : List Char) : distance s t = (row s t).getLastD 0 :=
  List.getLastD_eq_getLast?.symm

theorem row_concat (s t : List Char) (d : Char) :
    row s (t ++ [d]) = row s t ++ [distance s (t ++ [d])] := by
  have hlast : ∃ entry, row s (t ++ [d]) = row s t ++ [entry] := by
    induction s using List.reverseRecOn with
    | nil => exact ⟨t.length + 1, by simp [row, List.range_succ]⟩
    | append_singleton s c ih =>
      obtain ⟨above, habove⟩ := ih
      rw [row_concat_left, row_concat_left, habove, nextRow_concat (length_row s t)]
      exact ⟨_, rfl⟩
  obtain ⟨entry, hentry⟩ := hlast
  rw [distance_eq_getLastD, hentry, List.getLastD_concat]

theorem distance_concat_nil (s : List Char) (c : Char) :
    distance (s ++ [c]) [] = distance s [] + 1 := by
  have hlength := length_row s []
  simp only [distance_eq_getLastD, row_concat_left]
  match hrow : row s [], hlength with
  | [first], _ => simp [nextRow, extendRow]

theorem distance_concat_concat (s t : List Char) (c d : Char) :
    distance (s ++ [c]) (t ++ [d]) =
      min (min (distance s (t ++ [d]) + 1) (distance (s ++ [c]) t + 1))
        (distance s t + if c = d then 0 else 1) := by
  rw [distance_eq_getLastD, row_concat_left, row_concat, nextRow_concat (length_row s t),
    List.getLastD_concat, ← row_concat_left, ← distance_eq_getLastD, ← distance_eq_getLastD]

theorem distance_nil_right (s : List Char) : distance s [] = s.length := by
  induction s using List.reverseRecOn with
  | nil => simp [distance_nil_left]
  | append_singleton s c ih => simp [distance_concat_nil, ih]

theorem distance_concat_right_le (s t : List Char) (d : Char) :
    distance s (t ++ [d]) ≤ distance s t + 1 := by
  induction s using List.reverseRecOn with
  | nil => simp [distance_nil_left]
  | append_singleton s c ih =>
    rw [distance_concat_concat]
    omega

theorem distance_concat_left_le (s t : List Char) (c : Char) :
    distance (s ++ [c]) t ≤ distance s t + 1 := by
  induction t using List.reverseRecOn with
  | nil => simp [distance_nil_right]
  | append_singleton t d ih =>
    rw [distance_concat_concat]
    omega

theorem distance_le_concat_right (s t : List Char) (d : Char) :
    distance s t ≤ distance s (t ++ [d]) + 1 := by
  induction s using List.reverseRecOn with
  | nil =>
    simp only [distance_nil_left, List.length_append, List.length_singleton]
    omega
  | append_singleton s c ih =>
    have hleft := distance_concat_left_le s t c
    rw [distance_concat_concat]
    omega

theorem distance_replace_le (s t : List Char) (d e : Char) :
    distance s (t ++ [e]) ≤ distance s (t ++ [d]) + 1 := by
  induction s using List.reverseRecOn with
  | nil => simp [distance_nil_left]
  | append_singleton s c ih =>
    rw [distance_concat_concat, distance_concat_concat]
    split <;> split <;> omega

theorem distance_append_le (h : ∀ s, distance s u ≤ distance s t + 1) (rest s : List Char) :
    distance s (u ++ rest) ≤ distance s (t ++ rest) + 1 := by
  induction rest using List.reverseRecOn generalizing s with
  | nil => simpa using h s
  | append_singleton rest d ih =>
    rw [← List.append_assoc, ← List.append_assoc]
    -- each entry is made of three neighbours, which all differ by one at most
    induction s using List.reverseRecOn with
    | nil =>
      have hshorter := ih []
      simp only [distance_nil_left, List.length_append, List.length_singleton] at hshorter ⊢
      omega
    | append_singleton s c ihs =>
      have hboth := ih s
      have hlonger := ih (s ++ [c])
      rw [distance_concat_concat, distance_concat_concat]
      omega

theorem Edit.distance_le (h : Edit t u) (s : List Char) : distance s u ≤ distance s t + 1 := by
  cases h with
  | insert before after c =>
    simpa using distance_append_le (fun s => distance_concat_right_le s before c) after s
  | delete before after c =>
    simpa using distance_append_le (fun s => distance_le_concat_right s before c) after s
  | replace before after c d =>
    simpa using distance_append_le (fun s => distance_replace_le s before c d) after s

theorem distance_self (s : List Char) : distance s s = 0 := by
  induction s using List.reverseRecOn with
  | nil => rfl
  | append_singleton s c ih => simp [distance_concat_concat, ih]

theorem Script.distance_le (h : Script count s t) (r : List Char) :
    distance r t ≤ distance r s + count := by
  induction h with
  | done s => exact Nat.le_refl _
  | step hedit _ ih =>
    have hstep := hedit.distance_le r
    omega

/-- The table is read backwards: each entry stands for a script of just this length. -/
theorem script_distance (s t : List Char) : Script (distance s t) s t := by
  induction s using List.reverseRecOn generalizing t with
  | nil =>
    induction t using List.reverseRecOn with
    | nil => exact .done []
    | append_singleton t d ih =>
      have hlength : distance [] (t ++ [d]) = distance [] t + 1 := by simp [distance_nil_left]
      rw [hlength]
      exact ih.concat (.insert_last t d)
  | append_singleton s c ihs =>
    induction t using List.reverseRecOn with
    | nil =>
      rw [distance_concat_nil]
      exact .step (Edit.insert_last s c).symm (ihs [])
    | append_singleton t d iht =>
      -- one script for each neighbour that the entry may come from
      have hdelete : Script (distance s (t ++ [d]) + 1) (s ++ [c]) (t ++ [d]) :=
        .step (Edit.insert_last s c).symm (ihs (t ++ [d]))
      have hinsert : Script (distance (s ++ [c]) t + 1) (s ++ [c]) (t ++ [d]) :=
        iht.concat (.insert_last t d)
      have hkeep : Script (distance s t + if c = d then 0 else 1) (s ++ [c]) (t ++ [d]) := by
        have hsame : Script (distance s t) (s ++ [c]) (t ++ [c]) := (ihs t).append [c]
        by_cases hcd : c = d
        · subst hcd
          simpa using hsame
        · simpa [hcd] using hsame.concat (.replace_last t c d)
      rw [distance_concat_concat]
      exact (hdelete.min hinsert).min hkeep

theorem isLeast_distance (s t : List Char) : IsLeast { count | Script count s t } (distance s t) :=
  ⟨script_distance s t, fun count h => by simpa [distance_self] using h.distance_le s⟩

theorem distance_le_of_script (h : Script count s t) : distance s t ≤ count :=
  (isLeast_distance s t).2 h

theorem distance_comm (s t : List Char) : distance s t = distance t s :=
  Nat.le_antisymm (distance_le_of_script (script_distance t s).symm)
    (distance_le_of_script (script_distance s t).symm)

theorem distance_eq_zero : distance s t = 0 ↔ s = t := by
  constructor
  · intro h
    have hscript := script_distance s t
    rw [h] at hscript
    exact Script.zero_iff.mp hscript
  · rintro rfl
    exact distance_self s

theorem distance_triangle (s t u : List Char) : distance s u ≤ distance s t + distance t u :=
  distance_le_of_script ((script_distance s t).trans (script_distance t u))

/-- The first of the candidates that are nearest to the target, with those before and after it. -/
structure IsNearest (target : String) (before : List String) (best : String)
    (after : List String) : Prop where
  earlier : ∀ name ∈ before, distance target.toList best.toList < distance target.toList name.toList
  later : ∀ name ∈ after, distance target.toList best.toList ≤ distance target.toList name.toList

theorem exists_isNearest (target : String) {candidates : List String} (h : candidates ≠ []) :
    ∃ before best after, candidates = before ++ best :: after ∧
      nearest? target candidates = some best ∧ IsNearest target before best after := by
  induction candidates with
  | nil => exact absurd rfl h
  | cons candidate candidates ih =>
    cases candidates with
    | nil => exact ⟨[], candidate, [], rfl, rfl, by simp, by simp⟩
    | cons second rest =>
      obtain ⟨before, best, after, hsplit, hbest, hbefore, hafter⟩ := ih (List.cons_ne_nil _ _)
      rw [nearest?, hbest, hsplit]
      by_cases hcloser :
          distance target.toList best.toList < distance target.toList candidate.toList
      · refine ⟨candidate :: before, best, after, rfl, if_pos hcloser, ?_, hafter⟩
        exact List.forall_mem_cons.mpr ⟨hcloser, hbefore⟩
      · refine ⟨[], candidate, before ++ best :: after, rfl, if_neg hcloser, by simp, ?_⟩
        have hclose := Nat.not_lt.mp hcloser
        intro name hname
        rcases List.mem_append.mp hname with hname | hname
        · exact hclose.trans (hbefore name hname).le
        · rcases List.mem_cons.mp hname with rfl | hname
          · exact hclose
          · exact hclose.trans (hafter name hname)

/-- The distance of two texts is the length of a shortest script of edits from one to the other, and
so it is a metric. A hint names the first of the names that are nearest to a misspelt one. -/
theorem nearest_exact :
    (∀ s t : String,
      IsLeast { count | Script count s.toList t.toList } (distance s.toList t.toList)) ∧
    (∀ s t : String, distance s.toList t.toList = distance t.toList s.toList) ∧
    (∀ s t : String, distance s.toList t.toList = 0 ↔ s = t) ∧
    (∀ s t u : String,
      distance s.toList u.toList ≤ distance s.toList t.toList + distance t.toList u.toList) ∧
    ∀ (target : String) (candidates : List String), candidates ≠ [] →
      ∃ before best after, candidates = before ++ best :: after ∧
        TrackingError.suggestion (nearest? target candidates) = "Did you mean '" ++ best ++ "'?" ∧
        IsNearest target before best after := by
  refine ⟨fun s t => isLeast_distance s.toList t.toList,
    fun s t => distance_comm s.toList t.toList,
    fun s t => distance_eq_zero.trans String.toList_inj,
    fun s t u => distance_triangle s.toList t.toList u.toList, fun target candidates h => ?_⟩
  obtain ⟨before, best, after, hsplit, hbest, hnearest⟩ := exists_isNearest target h
  refine ⟨before, best, after, hsplit, ?_, hnearest⟩
  rw [hbest]
  rfl

theorem nearest_exact_kitten :
    Script 3 "kitten".toList "sitting".toList ∧ ¬Script 2 "kitten".toList "sitting".toList ∧
    ["number", "lime", "line"] ≠ [] ∧
    TrackingError.suggestion (nearest? "lie" ["number", "lime", "line"]) =
      "Did you mean 'lime'?" ∧
    ∃ before after, ["number", "lime", "line"] = before ++ "lime" :: after ∧
      IsNearest "lie" before "lime" after := by
  obtain ⟨hleast, _, _, _, hnearest⟩ := nearest_exact
  have hdistance : distance "kitten".toList "sitting".toList = 3 := by decide +kernel
  have hthree := hleast "kitten" "sitting"
  rw [hdistance] at hthree
  have hsome : ["number", "lime", "line"] ≠ [] := by decide
  have hhint : TrackingError.suggestion (nearest? "lie" ["number", "lime", "line"]) =
      "Did you mean '" ++ "lime" ++ "'?" := by decide +kernel
  obtain ⟨before, best, after, hsplit, hbest, hfirst⟩ := hnearest "lie" _ hsome
  have hlime : best = "lime" :=
    (String.append_right_inj _).mp ((String.append_left_inj _).mp (hbest.symm.trans hhint))
  subst hlime
  exact ⟨hthree.1, fun htwo => absurd (hthree.2 htwo) (by decide), hsome, hhint, before, after,
    hsplit, hfirst⟩

end Reindex.Text.EditDistance
