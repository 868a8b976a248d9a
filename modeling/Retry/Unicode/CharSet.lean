/-! Sets of code points as ascending lists of disjoint ranges. The complement is taken
among the scalar values, which leave out the surrogates. -/
namespace Retry.Unicode

structure CharSet where
  ranges : List (Nat × Nat)
deriving DecidableEq, Inhabited

namespace CharSet

/-- The last code point. -/
def last : Nat := 0x10FFFF

/-- Adds a range that starts no earlier than those before it; the list is in
descending order. -/
def extend (acc : List (Nat × Nat)) (r : Nat × Nat) : List (Nat × Nat) :=
  match acc with
  | [] => [r]
  | (low, high) :: rest => if r.1 ≤ high + 1 then (low, max high r.2) :: rest else r :: acc

/-- The union of any ranges; empty ones are passed over. -/
def ofList (ranges : List (Nat × Nat)) : CharSet :=
  ⟨(((ranges.filter fun r => r.1 ≤ r.2).mergeSort fun a b => a.1 ≤ b.1).foldl extend []).reverse⟩

def empty : CharSet := ⟨[]⟩

def singleton (c : Nat) : CharSet := ⟨[(c, c)]⟩

def contains (s : CharSet) (c : Nat) : Bool := s.ranges.any fun (low, high) => low ≤ c && c ≤ high

def union (a b : CharSet) : CharSet := ofList (a.ranges ++ b.ranges)

/-- The gaps before and between ascending ranges, and after them. -/
def gaps : Nat → List (Nat × Nat) → List (Nat × Nat)
  | next, [] => if next ≤ last then [(next, last)] else []
  | next, (low, high) :: rest =>
    if next < low then (next, low - 1) :: gaps (high + 1) rest else gaps (high + 1) rest

def inter (a b : CharSet) : CharSet :=
  ofList (a.ranges.flatMap fun (low, high) =>
    (b.ranges.filter fun (low', high') => low' ≤ high && low ≤ high').map fun (low', high') =>
      (max low low', min high high'))

/-- Every code point that is a character. -/
def scalars : CharSet := ⟨[(0, 0xD7FF), (0xE000, last)]⟩

def compl (s : CharSet) : CharSet := inter ⟨gaps 0 s.ranges⟩ scalars

def diff (a b : CharSet) : CharSet := inter a b.compl

def symmetricDifference (a b : CharSet) : CharSet := union (diff a b) (diff b a)

/-- Whether all members are below 128. -/
def isAscii (s : CharSet) : Bool := s.ranges.all fun r => r.2 < 128

end CharSet
end Retry.Unicode
