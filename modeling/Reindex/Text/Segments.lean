namespace Reindex.Text.Segments

variable (sep : Char)

def split : List Char → List (List Char)
  | [] => [[]]
  | c :: cs =>
    if c = sep then [] :: split cs
    else match split cs with
      | [] => [[c]]
      | segment :: segments => (c :: segment) :: segments

def join (segments : List (List Char)) : List Char := [sep].intercalate segments

theorem split_ne_nil (cs : List Char) : split sep cs ≠ [] := by
  cases cs with
  | nil => simp [split]
  | cons c cs =>
    by_cases h : c = sep
    · simp [split, h]
    · cases hs : split sep cs <;> simp [split, h, hs]

theorem split_of_notMem {cs : List Char} (h : sep ∉ cs) : split sep cs = [cs] := by
  induction cs with
  | nil => rfl
  | cons c cs ih =>
    simp only [List.mem_cons, not_or] at h
    simp [split, Ne.symm h.1, ih h.2]

theorem split_append_cons {cs : List Char} (h : sep ∉ cs) (rest : List Char) :
    split sep (cs ++ sep :: rest) = cs :: split sep rest := by
  induction cs with
  | nil => simp [split]
  | cons c cs ih =>
    simp only [List.mem_cons, not_or] at h
    simp [split, Ne.symm h.1, ih h.2]

theorem join_cons_cons (a b : List Char) (segments : List (List Char)) :
    join sep (a :: b :: segments) = a ++ sep :: join sep (b :: segments) := by
  simp [join, List.intercalate, List.intersperse]

theorem join_concat {segments : List (List Char)} (hne : segments ≠ []) (last : List Char) :
    join sep (segments ++ [last]) = join sep segments ++ sep :: last := by
  induction segments with
  | nil => exact absurd rfl hne
  | cons a segments ih =>
    cases segments with
    | nil =>
      rw [List.singleton_append, join_cons_cons]
      simp [join]
    | cons b segments =>
      have hrest := ih (List.cons_ne_nil b segments)
      rw [List.cons_append, List.cons_append, join_cons_cons, ← List.cons_append, hrest,
        join_cons_cons, List.append_assoc, List.cons_append]

theorem split_join {segments : List (List Char)} (hne : segments ≠ [])
    (h : ∀ segment ∈ segments, sep ∉ segment) : split sep (join sep segments) = segments := by
  induction segments with
  | nil => exact absurd rfl hne
  | cons a segments ih =>
    cases segments with
    | nil => simpa [join, List.intercalate] using split_of_notMem sep (h a (by simp))
    | cons b segments =>
      rw [join_cons_cons, split_append_cons sep (h a (by simp)),
        ih (by simp) (fun s hs => h s (by simp [hs]))]

theorem join_cons_append (c : Char) (cs : List Char) (segments : List (List Char)) :
    join sep ((c :: cs) :: segments) = c :: join sep (cs :: segments) := by
  cases segments with
  | nil => simp [join]
  | cons b segments => rw [join_cons_cons, join_cons_cons, List.cons_append]

theorem notMem_of_mem_split {cs segment : List Char} (h : segment ∈ split sep cs) :
    sep ∉ segment := by
  induction cs generalizing segment with
  | nil =>
    rw [split, List.mem_singleton] at h
    simp [h]
  | cons c cs ih =>
    by_cases hc : c = sep
    · rw [split, if_pos hc, List.mem_cons] at h
      rcases h with rfl | h
      · simp
      · exact ih h
    · obtain ⟨first, rest, hsplit⟩ := List.exists_cons_of_ne_nil (split_ne_nil sep cs)
      rw [hsplit] at ih
      simp only [split, if_neg hc, hsplit, List.mem_cons] at h
      rcases h with rfl | h
      · have hfirst : sep ∉ first := ih (List.mem_cons_self ..)
        simp [Ne.symm hc, hfirst]
      · exact ih (List.mem_cons_of_mem first h)

theorem join_split (cs : List Char) : join sep (split sep cs) = cs := by
  induction cs with
  | nil => simp [split, join]
  | cons c cs ih =>
    obtain ⟨first, rest, hsplit⟩ := List.exists_cons_of_ne_nil (split_ne_nil sep cs)
    rw [hsplit] at ih
    by_cases hc : c = sep
    · rw [split, if_pos hc, hsplit, join_cons_cons, ih, hc]
      rfl
    · simp only [split, if_neg hc, hsplit]
      rw [join_cons_append, ih]

end Reindex.Text.Segments
