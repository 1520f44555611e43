import BookCensus.Toml.Value
import BookCensus.Text.Ascii

/-!
# Dates and times

Dates and times are written as RFC 3339 has them, the seconds being optional.
Fractions of a second are kept to nine places.
-/

namespace BookCensus.Toml

open Text

/-- A number of exactly so many digits at the front. -/
def digitsAt? (count : Nat) (cs : List Char) : Option (Nat × List Char) :=
  let ds := cs.take count
  if ds.length = count && ds.all isDigit then some (decimalValue ds, cs.drop count) else none

/-- The days of a month. -/
def daysIn (year month : Nat) : Nat :=
  if month = 2 then
    if year % 4 = 0 ∧ (year % 100 ≠ 0 ∨ year % 400 = 0) then 29 else 28
  else if month = 4 ∨ month = 6 ∨ month = 9 ∨ month = 11 then 30
  else 31

/-- What follows a sign, if it comes next. -/
def after? (sign : Char) : List Char → Option (List Char)
  | c :: rest => if c = sign then some rest else none
  | [] => none

namespace Date

/-- A day at the front. -/
def read? (cs : List Char) : Option (Date × List Char) := do
  let (year, cs) ← digitsAt? 4 cs
  let cs ← after? '-' cs
  let (month, cs) ← digitsAt? 2 cs
  let cs ← after? '-' cs
  let (day, cs) ← digitsAt? 2 cs
  if 1 ≤ month ∧ month ≤ 12 ∧ 1 ≤ day ∧ day ≤ daysIn year month then
    some (⟨year, month, day⟩, cs)
  else none

end Date

namespace Time

/-- A fraction of a second in nanoseconds, if one is written here. -/
def fraction? (cs : List Char) : Option (Nat × List Char) :=
  match after? '.' cs with
  | none => some (0, cs)
  | some cs =>
      let ds := cs.takeWhile isDigit
      if ds.isEmpty then none
      else some (decimalValue ((ds ++ List.replicate 9 '0').take 9), cs.dropWhile isDigit)

/-- A time of day at the front. -/
def read? (cs : List Char) : Option (Time × List Char) := do
  let (hour, cs) ← digitsAt? 2 cs
  let cs ← after? ':' cs
  let (minute, cs) ← digitsAt? 2 cs
  let (second, nanosecond, cs) ←
    match after? ':' cs with
    | none => pure (0, 0, cs)
    | some cs => do
        let (second, cs) ← digitsAt? 2 cs
        let (nanosecond, cs) ← fraction? cs
        pure (second, nanosecond, cs)
  if hour ≤ 23 ∧ minute ≤ 59 ∧ second ≤ 60 then some (⟨hour, minute, second, nanosecond⟩, cs)
  else none

end Time

/-- An offset that is all that is left. -/
def Offset.read? (cs : List Char) : Option Offset :=
  match cs with
  | ['Z'] => some .universal
  | ['z'] => some .universal
  | sign :: cs =>
      if sign = '+' ∨ sign = '-' then do
        let (hours, cs) ← digitsAt? 2 cs
        let cs ← after? ':' cs
        let (rest, cs) ← digitsAt? 2 cs
        let total : Int := hours * 60 + rest
        if hours ≤ 23 ∧ rest ≤ 59 ∧ cs.isEmpty then
          some (.minutes (if sign = '-' then -total else total))
        else none
      else none
  | [] => none

namespace DateTime

/-- Read a date, a time or both. -/
def read? (cs : List Char) : Option DateTime :=
  match Date.read? cs with
  | some (d, []) => some (.date d)
  | some (d, mark :: rest) =>
      if mark = 'T' ∨ mark = 't' ∨ mark = ' ' then do
        let (t, rest) ← Time.read? rest
        if rest.isEmpty then some (.moment d t none)
        else
          let offset ← Offset.read? rest
          some (.moment d t (some offset))
      else none
  | none =>
      match Time.read? cs with
      | some (t, []) => some (.time t)
      | _ => none

/-- A number with zeros in front to fill some places. -/
def padded (places n : Nat) : List Char :=
  let ds := (Nat.repr n).toList
  List.replicate (places - ds.length) '0' ++ ds

/-- The written form of a day. -/
def dateChars (d : Date) : List Char :=
  padded 4 d.year ++ '-' :: padded 2 d.month ++ '-' :: padded 2 d.day

/-- The written form of a time of day: a fraction without zeros at its end. -/
def timeChars (t : Time) : List Char :=
  let fraction := ((padded 9 t.nanosecond).reverse.dropWhile (· = '0')).reverse
  padded 2 t.hour ++ ':' :: padded 2 t.minute ++ ':' :: padded 2 t.second
    ++ (if t.nanosecond = 0 then [] else '.' :: fraction)

/-- The written form of an offset. -/
def offsetChars : Offset → List Char
  | .universal => ['Z']
  | .minutes count =>
      (if count < 0 then '-' else '+')
        :: padded 2 (count.natAbs / 60) ++ ':' :: padded 2 (count.natAbs % 60)

/-- The written form. -/
def text : DateTime → String
  | .moment d t offset =>
      String.ofList (dateChars d ++ 'T' :: timeChars t ++ (offset.map offsetChars).getD [])
  | .date d => String.ofList (dateChars d)
  | .time t => String.ofList (timeChars t)

end DateTime

end BookCensus.Toml
