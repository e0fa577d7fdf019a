namespace Reindex.Text

/-- First and last code point of a run, and the distance between its members. -/
abbrev Run := Nat × Nat × Nat

namespace Run

def contains (run : Run) (code : Nat) : Bool :=
  run.1 ≤ code && code ≤ run.2.1 && (code - run.1) % run.2.2 == 0

end Run

def inRuns (runs : List Run) (c : Char) : Bool := runs.any (fun run => run.contains c.toNat)

def inRanges (ranges : List (Nat × Nat)) (c : Char) : Bool :=
  ranges.any (fun range => range.1 ≤ c.toNat && c.toNat ≤ range.2)

end Reindex.Text
