import BookCensus.Pattern.Expr

/-!
# How large a pattern is

A pattern is refused when the machine that would look for it takes too many
bytes.  The machine has a state for every byte of a character, states for
the places where paths part and join, and a copy of a repeated expression for
every repetition that is counted.  A few states more are there for every
expression: those that move on to where it fits, and those that note where it
begins and ends.

A set of characters beyond ASCII is cut into sequences of ranges of bytes: a
character is in the set exactly when the bytes of its UTF-8 form fall into the
ranges of one sequence.  Sequences share the states of what they have in
common at the front.
-/

namespace BookCensus.Pattern

namespace Size

/-- The bytes of the UTF-8 form of a code point. -/
def utf8Bytes (n : Nat) : List Nat :=
  if n < 0x80 then [n]
  else if n < 0x800 then [0xc0 + n / 0x40, 0x80 + n % 0x40]
  else if n < 0x10000 then [0xe0 + n / 0x1000, 0x80 + n / 0x40 % 0x40, 0x80 + n % 0x40]
  else [0xf0 + n / 0x40000, 0x80 + n / 0x1000 % 0x40, 0x80 + n / 0x40 % 0x40, 0x80 + n % 0x40]

/-- Where a range has to be cut, so that what is left is of one sequence: behind
the last code point of some length, around the surrogates, and where all but
the first bytes would not run through all their values. -/
def cut? (low high : Nat) : Option Nat :=
  let lengths := [0x7f, 0x7ff, 0xffff].find? fun last => low ≤ last && last < high
  let blocks := [0x40, 0x1000, 0x40000].findSome? fun size =>
    if low / size = high / size then none
    else if low % size ≠ 0 then some ((low / size + 1) * size - 1)
    else if high % size ≠ size - 1 then some (high / size * size - 1)
    else none
  lengths.or (if high < 0x80 then none else blocks)

/-- The sequences of byte ranges for a range of code points without surrogates.
Every cut leaves less to cut, and two dozen cuts in a row cannot happen. -/
def sequences : Nat → Nat → Nat → List (List (Nat × Nat))
  | 0, _, _ => []
  | fuel + 1, low, high =>
      match cut? low high with
      | some last => sequences fuel low last ++ sequences fuel (last + 1) high
      | none => [(utf8Bytes low).zip (utf8Bytes high)]

/-- A range without the surrogates in it. -/
def withoutSurrogates (range : Nat × Nat) : List (Nat × Nat) :=
  let (low, high) := range
  [(low, min high 0xd7ff), (max low 0xe000, high)].filter fun r => r.1 ≤ r.2

/-- The length of the longest common front of two lists. -/
def sharedFront : List (Nat × Nat) → List (Nat × Nat) → Nat
  | a :: as, b :: bs => if a = b then 1 + sharedFront as bs else 0
  | _, _ => 0

/-- The states of sequences that share their fronts with their neighbours. -/
def sharedStates : List (Nat × Nat) → List (List (Nat × Nat)) → Nat
  | _, [] => 0
  | before, s :: rest => s.length - sharedFront before s + sharedStates s rest

/-- The bytes that one state takes. -/
def state : Nat := 32

/-- The bytes around every expression.  Three states try each place of the text as its
beginning: a fork with its two ways on, a step over any byte, and what stands behind that.
Two note where the stretch begins and ends, and one that it was found. -/
def frame : Nat := (3 * state + 16) + 2 * state + state

/-- The bytes for one character of a set. -/
def ofSet (set : CharSet) : Nat :=
  match set.ranges with
  | [] => state
  | [(low, high)] =>
      if low = high then state * (utf8Bytes low).length
      else ofRanges [(low, high)]
  | ranges => ofRanges ranges
where
  /-- The bytes for a set that is more than one character. -/
  ofRanges (ranges : List (Nat × Nat)) : Nat :=
    if ranges.all fun r => r.2 < 0x80 then 2 * state + 8 * ranges.length
    else
      let all := (ranges.flatMap withoutSurrogates).flatMap fun r => sequences 24 r.1 r.2
      state * (2 + sharedStates [] all) + 4 * all.length

end Size

open Size in
/-- The bytes of the part of the machine that an expression makes. -/
def Expr.size : Expr → Nat
  | .nothing => state
  | .char set => ofSet set
  | .look _ => state
  | .capture body => 2 * state + body.size
  | .seq first second => first.size + second.size
  | .alt first (.alt second third) => first.size + 4 + (Expr.alt second third).size
  | .alt first second => 2 * state + 8 + first.size + second.size
  | .loop least none body =>
      if least = 0 then
        if body.isSolid then state + 8 + body.size else 3 * state + 16 + body.size
      else state + 8 + least * body.size
  | .loop least (some most) body =>
      let front := if least = 0 then state else least * body.size
      if least = 0 ∧ most = 1 then 2 * state + 8 + body.size
      else if least = most then front
      else state + front + (most - least) * (state + 8 + body.size)

/-- The bytes of the machine that looks for an expression. -/
def Expr.machineSize (e : Expr) : Nat :=
  Size.frame + e.size

/-- The bytes that a machine may take. -/
def sizeLimit : Nat := 10485760

end BookCensus.Pattern
