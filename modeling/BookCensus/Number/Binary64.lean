/-!
# Finite floating-point numbers

A `Binary64` is a finite number of the IEEE format of sixty-four bits, held as
its sign, its significand (at most fifty-three bits) and a power of two.
Reading a decimal rounds to the nearest such number, a tie to the even
significand; everything is exact arithmetic on `Nat`.
-/

namespace BookCensus.Number

/-- The number `±significand · 2 ^ exponent`. -/
structure Binary64 where
  negative : Bool
  significand : Nat
  exponent : Int
  deriving DecidableEq, Repr, Inhabited

namespace Binary64

/-- The least exponent: below it the format has no finer steps. -/
def leastExponent : Int := -1074

/-- The greatest exponent of a finite number. -/
def greatestExponent : Int := 971

/-- Zero with a sign. -/
def zero (negative : Bool) : Binary64 :=
  ⟨negative, 0, leastExponent⟩

/-- The quotient rounded to the nearest natural number, a tie to the even one. -/
def roundQuotient (num den : Nat) : Nat :=
  let down := num / den
  let twice := 2 * (num % den)
  if twice < den then down
  else if den < twice then down + 1
  else if down % 2 == 0 then down else down + 1

/-- `num · 2 ^ e / den` rounded to the nearest natural number. -/
def roundScaled (num den : Nat) (e : Int) : Nat :=
  if 0 ≤ e then roundQuotient (num * Nat.pow 2 e.toNat) den
  else roundQuotient num (den * Nat.pow 2 (-e).toNat)

/-- The exponent whose steps suit the quotient `num / den`: its significand has
fifty-three bits there, or the exponent is the least one. -/
def exponentFor (num den : Nat) : Int :=
  let guess := (num.log2 : Int) - (den.log2 : Int) - 53
  let fits (e : Int) : Bool :=
    if 0 ≤ e then num / (den * Nat.pow 2 e.toNat) < Nat.pow 2 53
    else num * Nat.pow 2 (-e).toNat / den < Nat.pow 2 53
  let e := if fits guess then guess else guess + 1
  max leastExponent e

/-- The number nearest to a positive quotient; none where it lies beyond the
greatest finite number. -/
def ofQuotient (negative : Bool) (num den : Nat) : Option Binary64 :=
  let e := exponentFor num den
  let n := roundScaled num den (-e)
  let (n, e) := if n == Nat.pow 2 53 then (Nat.pow 2 52, e + 1) else (n, e)
  if greatestExponent < e then none else some ⟨negative, n, e⟩

/-- The number nearest to `digits · 10 ^ power`.  Powers far outside the range
of the format are settled without computing them. -/
def ofDecimal (negative : Bool) (digits : Nat) (power : Int) : Option Binary64 :=
  if digits == 0 then some (zero negative)
  else
    let magnitude := (Nat.log2 digits : Int) / 3 + power
    if 400 < magnitude ∧ 400 < power then none
    else if magnitude + 2 < -400 then some (zero negative)
    else if 0 ≤ power then ofQuotient negative (digits * Nat.pow 10 power.toNat) 1
    else ofQuotient negative digits (Nat.pow 10 (-power).toNat)

end Binary64

end BookCensus.Number
