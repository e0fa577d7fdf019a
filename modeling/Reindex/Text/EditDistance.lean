namespace Reindex.Text.EditDistance

/-- Distances from a text to every beginning of `right`, from those of the text without its last
character `c`; `corner` is the entry computed last. -/
def extendRow (c : Char) (corner : Nat) : List Char → List Nat → List Nat
  | d :: right, diagonal :: above :: row =>
    let entry := min (min (above + 1) (corner + 1)) (diagonal + if c = d then 0 else 1)
    entry :: extendRow c entry right (above :: row)
  | _, _ => []

def nextRow (right : List Char) (row : List Nat) (c : Char) : List Nat :=
  match row with
  | [] => []
  | first :: _ => (first + 1) :: extendRow c (first + 1) right row

def row (left right : List Char) : List Nat :=
  left.foldl (nextRow right) (List.range (right.length + 1))

def distance (left right : List Char) : Nat := (row left right).getLast?.getD 0

theorem distance_nil_left (right : List Char) : distance [] right = right.length := by
  simp [distance, row, List.getLast?_range]

/-- The first of the candidates that are nearest to the target. -/
def nearest? (target : String) : List String → Option String
  | [] => none
  | candidate :: candidates =>
    match nearest? target candidates with
    | none => some candidate
    | some best =>
      if distance target.toList best.toList < distance target.toList candidate.toList
      then some best else some candidate

theorem nearest?_eq_none_iff {target : String} {candidates : List String} :
    nearest? target candidates = none ↔ candidates = [] := by
  cases candidates with
  | nil => simp [nearest?]
  | cons c cs =>
    cases h : nearest? target cs with
    | none => simp [nearest?, h]
    | some best =>
      simp only [nearest?, h]
      split <;> simp

end Reindex.Text.EditDistance
