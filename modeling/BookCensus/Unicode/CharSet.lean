/-!
# Sets of characters

A `CharSet` is a list of ranges of code points, in ascending order and with gaps
between them.  The operations are those of sets; the complement is taken among
all code points, of which the surrogates are no characters and never matter.
-/

namespace BookCensus

/-- A set of characters: the ranges of their code points, ends included. -/
structure CharSet where
  ranges : List (Nat × Nat)
  deriving DecidableEq, Repr, Inhabited

namespace CharSet

/-- The greatest code point. -/
def greatest : Nat := 0x10ffff

/-- Whether a character is in a set. -/
def contains (s : CharSet) (c : Char) : Bool :=
  s.ranges.any fun (low, high) => low ≤ c.toNat && c.toNat ≤ high

/-- No character. -/
def empty : CharSet := ⟨[]⟩

/-- Every character. -/
def all : CharSet := ⟨[(0, greatest)]⟩

/-- One character. -/
def single (c : Char) : CharSet := ⟨[(c.toNat, c.toNat)]⟩

/-- The code points from one to another. -/
def range (low high : Nat) : CharSet := ⟨[(low, high)]⟩

/-- Join ranges in ascending order of their lower ends where they touch. -/
def joinTouching : List (Nat × Nat) → List (Nat × Nat)
  | [] => []
  | r :: rest =>
      match joinTouching rest with
      | [] => [r]
      | next :: more =>
          if next.1 ≤ r.2 + 1 then (r.1, max r.2 next.2) :: more else r :: next :: more

/-- The set of the code points in some ranges, in any order. -/
def ofRanges (ranges : List (Nat × Nat)) : CharSet :=
  ⟨joinTouching (ranges.mergeSort fun r s => r.1 ≤ s.1)⟩

/-- The characters in one set or the other. -/
def union (s t : CharSet) : CharSet :=
  ofRanges (s.ranges ++ t.ranges)

/-- The gaps between ranges from a code point on. -/
def gapsFrom (start : Nat) : List (Nat × Nat) → List (Nat × Nat)
  | [] => if start ≤ greatest then [(start, greatest)] else []
  | (low, high) :: rest =>
      if start < low then (start, low - 1) :: gapsFrom (high + 1) rest
      else gapsFrom (high + 1) rest

/-- The characters that are not in a set. -/
def complement (s : CharSet) : CharSet :=
  ⟨gapsFrom 0 s.ranges⟩

/-- The characters in both sets. -/
def inter (s t : CharSet) : CharSet :=
  (s.complement.union t.complement).complement

/-- The characters in the first set and not in the second. -/
def diff (s t : CharSet) : CharSet :=
  s.inter t.complement

/-- The characters in exactly one of two sets. -/
def symmDiff (s t : CharSet) : CharSet :=
  (s.diff t).union (t.diff s)

/-- Whether a set has ASCII characters only. -/
def isAscii (s : CharSet) : Bool :=
  s.ranges.all fun (_, high) => high < 0x80

end CharSet

end BookCensus
