/-!
# Sets of code points

A `CodeSet` is a set of code points as closed ranges, increasing and apart from each other. The
standard's tables are texts of hexadecimal numbers, which the readers below turn into sets.
-/

namespace Chatflow

namespace Unicode

/-! ### Reading tables -/

/-- The value of a hexadecimal digit in lower case. -/
def hexDigitValue? (c : Char) : Option Nat :=
  if c.isDigit then some (c.toNat - '0'.toNat)
  else if 'a' ≤ c && c ≤ 'f' then some (c.toNat - 'a'.toNat + 10)
  else none

/-- The hexadecimal number in front, added to what stands before it, and the rest. -/
def readHex : Nat → List Char → Nat × List Char
  | n, [] => (n, [])
  | n, c :: cs =>
    match hexDigitValue? c with
    | some d => readHex (n * 16 + d) cs
    | none => (n, c :: cs)

/-- The label and the bounds of each run of a table whose runs follow each other: the length of a
run in hexadecimal, then its label. -/
def labelledRuns (lines : List String) : List (String × Nat × Nat) :=
  let step (acc : Nat × List (String × Nat × Nat)) (entry : String) :=
    let (length, label) := readHex 0 entry.toList
    (acc.1 + length, (String.ofList label, acc.1, acc.1 + length - 1) :: acc.2)
  ((lines.flatMap (·.splitToList (· = ' '))).foldl step (0, [])).2.reverse

/-! ### Sets -/

/-- A set of code points as closed ranges, increasing and apart. -/
structure CodeSet where
  /-- The bounds of the ranges. -/
  ranges : Array (Nat × Nat)
  deriving DecidableEq, Repr, Inhabited

namespace CodeSet

/-- The largest code point. -/
def last : Nat := 0x10FFFF

/-- The set without code points. -/
def empty : CodeSet := ⟨#[]⟩

/-- The set of all code points. -/
def all : CodeSet := ⟨#[(0, last)]⟩

/-- Joins ranges, given by increasing start, that touch or overlap. -/
def join : List (Nat × Nat) → List (Nat × Nat)
  | [] => []
  | [r] => [r]
  | r :: s :: rest =>
    if s.1 ≤ r.2 + 1 then join ((r.1, max r.2 s.2) :: rest) else r :: join (s :: rest)
  termination_by ranges => ranges.length

/-- The set of the code points in some ranges. -/
def ofRanges (ranges : List (Nat × Nat)) : CodeSet :=
  ⟨(join (ranges.mergeSort fun a b => a.1 ≤ b.1)).toArray⟩

/-- The set given by the lengths, in hexadecimal, of the stretches outside and inside by turns. -/
def ofStretches (lines : List String) : CodeSet :=
  let rec go (start : Nat) : List Nat → List (Nat × Nat)
    | gap :: length :: rest =>
      (start + gap, start + gap + length - 1) :: go (start + gap + length) rest
    | [gap] => [(start + gap, last)]
    | [] => []
  let numbers := (lines.flatMap (·.splitToList (· = ' '))).map fun t => (readHex 0 t.toList).1
  ⟨(go 0 numbers).toArray⟩

/-- Whether a code point is in one of the ranges between two indices. -/
def search (ranges : Array (Nat × Nat)) (c : Nat) : Nat → Nat → Nat → Bool
  | 0, _, _ => false
  | fuel + 1, low, high =>
    if low < high then
      let mid := (low + high) / 2
      match ranges[mid]? with
      | some (a, b) =>
        if c < a then search ranges c fuel low mid
        else if b < c then search ranges c fuel (mid + 1) high
        else true
      | none => false
    else false

/-- Whether a code point is in the set. -/
def contains (s : CodeSet) (c : Nat) : Bool := search s.ranges c 32 0 s.ranges.size

/-- Whether the set is empty. -/
def isEmpty (s : CodeSet) : Bool := s.ranges.isEmpty

/-- The code points of both sets. -/
def union (s t : CodeSet) : CodeSet := ofRanges (s.ranges.toList ++ t.ranges.toList)

/-- The stretches between increasing ranges, from a start on. -/
def gaps (start : Nat) : List (Nat × Nat) → List (Nat × Nat)
  | [] => if start ≤ last then [(start, last)] else []
  | (a, b) :: rest => if start < a then (start, a - 1) :: gaps (b + 1) rest else gaps (b + 1) rest

/-- The code points not in the set. -/
def complement (s : CodeSet) : CodeSet := ⟨(gaps 0 s.ranges.toList).toArray⟩

/-- The code points in both sets. -/
def inter (s t : CodeSet) : CodeSet := (s.complement.union t.complement).complement

/-- The code points in the first set only. -/
def difference (s t : CodeSet) : CodeSet := s.inter t.complement

/-- The code points in just one of the sets. -/
def symmDifference (s t : CodeSet) : CodeSet := (s.union t).difference (s.inter t)

/-- Whether all code points of the set are ASCII. -/
def isAscii (s : CodeSet) : Bool := s.ranges.all fun r => r.2 ≤ 0x7F

end CodeSet

end Unicode

end Chatflow
