/-!
# Tables of code points

Tables are written as rows of decimal numbers. Read as lengths of consecutive runs they give either
a set of code points, whose runs lie inside and outside in turn, or a label for every code point.
-/

namespace CompilerLog.Unicode

namespace Table

/-- Reads one character: a digit extends the number begun, anything else completes it. The numbers
read so far are held in reverse. -/
def readChar (state : Option Nat × List Nat) (c : Char) : Option Nat × List Nat :=
  if c.isDigit then (some (state.1.getD 0 * 10 + (c.toNat - '0'.toNat)), state.2)
  else (none, state.1.toList ++ state.2)

/-- The numbers of the rows, in order. -/
def numbers (rows : List String) : List Nat :=
  (rows.foldl (fun found row =>
    let (last, found) := row.toList.foldl readChar (none, found)
    last.toList ++ found) []).reverse

def groups : List Nat → List (Nat × Nat × List Nat)
  | a :: b :: count :: rest => (a, b, rest.take count) :: groups (rest.drop count)
  | _ => []
termination_by l => l.length
decreasing_by simp; omega

/-- The ends of consecutive runs with the given lengths, the first one beginning at `start`. -/
def ends (start : Nat) : List Nat → List Nat
  | [] => []
  | length :: rest => (start + length) :: ends (start + length) rest

/-- How many of the ascending numbers in the given range of the array are at most `n`, counted from
the front of the array. -/
def countAtMost (bounds : Array Nat) (n low high : Nat) : Nat :=
  if low < high then
    let middle := (low + high) / 2
    if (bounds[middle]?).any (· ≤ n) then countAtMost bounds n (middle + 1) high
    else countAtMost bounds n low middle
  else low
termination_by high - low

end Table

/-- A set of code points, given by where its runs begin and end in turn. -/
structure CodeSet where
  bounds : Array Nat

namespace CodeSet

/-- The set whose rows tell how many code points are outside and inside, in turn. -/
def ofRows (rows : List String) : CodeSet := ⟨(Table.ends 0 (Table.numbers rows)).toArray⟩

def contains (s : CodeSet) (n : Nat) : Bool :=
  Table.countAtMost s.bounds n 0 s.bounds.size % 2 = 1

end CodeSet

/-- A label for every code point, given by the ends of runs with the same label. -/
structure Runs where
  ends : Array Nat
  labels : Array Nat

namespace Runs

def unzip : List Nat → List Nat × List Nat
  | length :: label :: rest =>
    let (lengths, labels) := unzip rest
    (length :: lengths, label :: labels)
  | _ => ([], [])

/-- The runs whose rows tell the length of each run and its label, in turn. -/
def ofRows (rows : List String) : Runs :=
  let (lengths, labels) := unzip (Table.numbers rows)
  ⟨(Table.ends 0 lengths).toArray, labels.toArray⟩

def label (r : Runs) (n : Nat) : Nat :=
  (r.labels[Table.countAtMost r.ends n 0 r.ends.size]?).getD 0

end Runs

end CompilerLog.Unicode
