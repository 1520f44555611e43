import BookCensus.Number.Binary64

/-!
# The fewest digits that read back

Every decimal between the midpoints to the two neighbours of a `Binary64` reads
back as that number; the midpoints themselves do so when its significand is
even.  `Binary64.shortest` looks at the decimals with one digit, two digits and
so on up to seventeen, and takes the first grid on which one of the two points
next to the number lies between the midpoints, of two such points the nearer.

How those digits are laid out is a `FloatStyle`.
-/

namespace BookCensus.Number

namespace Binary64

/-- `a · 2 ^ e` as a quotient. -/
def scaleByTwo (a : Nat) (e : Int) : Nat × Nat :=
  if 0 ≤ e then (a * Nat.pow 2 e.toNat, 1) else (a, Nat.pow 2 (-e).toNat)

/-- `c · 10 ^ k ≤ num / den`, multiplied out. -/
def decimalLE (c : Nat) (k : Int) (q : Nat × Nat) : Bool :=
  if 0 ≤ k then c * Nat.pow 10 k.toNat * q.2 ≤ q.1
  else c * q.2 ≤ q.1 * Nat.pow 10 (-k).toNat

/-- `num / den ≤ c · 10 ^ k`, multiplied out. -/
def leDecimal (q : Nat × Nat) (c : Nat) (k : Int) : Bool :=
  if 0 ≤ k then q.1 ≤ c * Nat.pow 10 k.toNat * q.2
  else q.1 * Nat.pow 10 (-k).toNat ≤ c * q.2

/-- The greatest `c` with `c · 10 ^ k ≤ num / den`. -/
def floorDecimal (q : Nat × Nat) (k : Int) : Nat :=
  if 0 ≤ k then q.1 / (q.2 * Nat.pow 10 k.toNat)
  else q.1 * Nat.pow 10 (-k).toNat / q.2

/-- How many digits a natural number is written with. -/
def digitCount (n : Nat) : Nat :=
  (Nat.toDigits 10 n).length

/-- The power of ten of the leading digit of a positive quotient. -/
def leadingPower (q : Nat × Nat) : Int :=
  (digitCount (q.1 * Nat.pow 10 400 / q.2) : Int) - 401

/-- Twice `c · 10 ^ k` is below the sum of the quotients `low` and `high`
of one denominator, which is to say that `c · 10 ^ k` lies nearer to `low`. -/
def nearerBelow (q : Nat × Nat) (c : Nat) (k : Int) : Bool :=
  decimalLE (2 * c + 1) k (2 * q.1, q.2) == false

/-- The two points of the grid of `p` digits next to the number, tried against
the interval of decimals that read back. -/
def gridPoint? (x : Binary64) (p : Nat) : Option (Nat × Int) :=
  let e := x.exponent - 2
  let value := scaleByTwo (4 * x.significand) e
  let high := scaleByTwo (4 * x.significand + 2) e
  let low :=
    if x.significand == Nat.pow 2 52 && leastExponent < x.exponent then
      scaleByTwo (4 * x.significand - 1) e
    else scaleByTwo (4 * x.significand - 2) e
  let closed := x.significand % 2 == 0
  let k := leadingPower value - (p : Int) + 1
  let c := floorDecimal value k
  let inside (n : Nat) : Bool :=
    leDecimal low n k && decimalLE n k high
      && (closed || (!decimalLE n k low && !leDecimal high n k))
  match inside c, inside (c + 1) with
  | true, true => some (if nearerBelow value c k then c else c + 1, k)
  | true, false => some (c, k)
  | false, true => some (c + 1, k)
  | false, false => none

/-- Drop the zeros at the end of a decimal, counting them into its power. -/
def dropZeros : Nat → Nat × Int → Nat × Int
  | 0, d => d
  | fuel + 1, (c, k) =>
      if c % 10 == 0 && c != 0 then dropZeros fuel (c / 10, k + 1) else (c, k)

/-- The decimal `c · 10 ^ k` with the fewest digits that reads back as the
number, the nearest where several have as few. -/
def shortest (x : Binary64) : Nat × Int :=
  if x.significand == 0 then (0, 0)
  else
    let found := (List.range 17).findSome? fun p => gridPoint? x (p + 1)
    dropZeros 20 (found.getD (0, 0))

end Binary64

/-- How a floating-point number is laid out: which powers of the leading digit
are written positionally, and the least number of digits of an exponent. -/
structure FloatStyle where
  leastPositional : Int
  greatestPositional : Int
  exponentDigits : Nat
  deriving Repr

namespace FloatStyle

/-- Digits with a point after the first `whole` of them. -/
def pointAfter (digits : List Char) (whole : Nat) : List Char :=
  digits.take whole ++ '.' :: digits.drop whole

/-- A number written positionally always keeps a digit on either side of the
point. -/
def positional (digits : List Char) (lead : Int) : List Char :=
  if lead < 0 then
    '0' :: '.' :: (List.replicate ((-lead).toNat - 1) '0' ++ digits)
  else
    let whole := lead.toNat + 1
    if digits.length ≤ whole then
      digits ++ List.replicate (whole - digits.length) '0' ++ ['.', '0']
    else pointAfter digits whole

/-- A number with an exponent has its point after the first digit, and none
where there is only one digit. -/
def scientific (style : FloatStyle) (digits : List Char) (lead : Int) : List Char :=
  let mantissa := if digits.length ≤ 1 then digits else pointAfter digits 1
  let power := (toString lead.natAbs).toList
  let padding := List.replicate (style.exponentDigits - power.length) '0'
  mantissa ++ 'e' :: (if lead < 0 then '-' else '+') :: (padding ++ power)

/-- The text of a number in a style. -/
def write (style : FloatStyle) (x : Binary64) : List Char :=
  let sign := if x.negative then ['-'] else []
  if x.significand == 0 then sign ++ ['0', '.', '0']
  else
    let (c, k) := x.shortest
    let digits := (toString c).toList
    let lead := k + (digits.length : Int) - 1
    if style.leastPositional ≤ lead ∧ lead ≤ style.greatestPositional then
      sign ++ positional digits lead
    else sign ++ style.scientific digits lead

end FloatStyle

end BookCensus.Number
