import BookCensus.Json.Value
import BookCensus.Text.Ascii

/-!
# Reading JSON

A recursive descent over the grammar of JSON.  A number without fraction and
exponent is an integer; one with either is the nearest floating-point number.
The members of an object keep their order and repetitions.

Each function takes the nesting it may still go down; a text of length `n`
nests less than `n + 1` deep, so `parse` never runs out of it.
-/

namespace BookCensus.Json

open Text

/-- The four characters that may stand between the parts of a value. -/
def isSpace (c : Char) : Bool :=
  c == ' ' || c == '\t' || c == '\n' || c == '\r'

/-- Drop the space at the front. -/
def skipSpace (cs : List Char) : List Char :=
  cs.dropWhile isSpace

/-- The value of four digits in base sixteen. -/
def hexQuad? : List Char → Option (Nat × List Char)
  | a :: b :: c :: d :: rest => do
      let a ← hexValue? a
      let b ← hexValue? b
      let c ← hexValue? c
      let d ← hexValue? d
      some (a * 4096 + b * 256 + c * 16 + d, rest)
  | _ => none

/-- What follows the letter u of an escape: one code unit, or the two halves of
a surrogate pair. -/
def unicodeEscape? (cs : List Char) : Option (Char × List Char) := do
  let (high, rest) ← hexQuad? cs
  if 0xd800 ≤ high ∧ high < 0xdc00 then
    match rest with
    | '\\' :: 'u' :: rest =>
        let (low, rest) ← hexQuad? rest
        if 0xdc00 ≤ low ∧ low < 0xe000 then
          let c ← charOfCode? (0x10000 + (high - 0xd800) * 0x400 + (low - 0xdc00))
          some (c, rest)
        else none
    | _ => none
  else
    let c ← charOfCode? high
    some (c, rest)

/-- What follows the backslash of an escape. -/
def escape? : List Char → Option (Char × List Char)
  | '"' :: rest => some ('"', rest)
  | '\\' :: rest => some ('\\', rest)
  | '/' :: rest => some ('/', rest)
  | 'b' :: rest => some ('\x08', rest)
  | 'f' :: rest => some ('\x0c', rest)
  | 'n' :: rest => some ('\n', rest)
  | 'r' :: rest => some ('\r', rest)
  | 't' :: rest => some ('\t', rest)
  | 'u' :: rest => unicodeEscape? rest
  | _ => none

/-- The characters of a string up to its closing quotation mark, `done` holding
those already read in reverse. -/
def stringBody? : Nat → List Char → List Char → Option (List Char × List Char)
  | 0, _, _ => none
  | fuel + 1, done, cs =>
      match cs with
      | [] => none
      | '"' :: rest => some (done.reverse, rest)
      | '\\' :: rest => do
          let (c, rest) ← escape? rest
          stringBody? fuel (c :: done) rest
      | c :: rest => if c.toNat < 0x20 then none else stringBody? fuel (c :: done) rest

/-- A string after its opening quotation mark. -/
def string? (cs : List Char) : Option (String × List Char) :=
  (stringBody? (cs.length + 1) [] cs).map fun (s, rest) => (String.ofList s, rest)

/-- The digits at the front, at least one. -/
def digits? (cs : List Char) : Option (List Char × List Char) :=
  let ds := cs.takeWhile isDigit
  if ds.isEmpty then none else some (ds, cs.dropWhile isDigit)

/-- The digits of a whole part: a zero alone, or digits that start with another. -/
def wholePart? : List Char → Option (List Char × List Char)
  | '0' :: rest => some (['0'], rest)
  | cs => digits? cs

/-- The fraction at the front, if there is one. -/
def fraction? : List Char → Option (Option (List Char) × List Char)
  | '.' :: rest => (digits? rest).map fun (ds, rest) => (some ds, rest)
  | cs => some (none, cs)

/-- The sign at the front, if there is one, and whether it is a minus. -/
def sign (cs : List Char) : Bool × List Char :=
  match cs with
  | '-' :: rest => (true, rest)
  | '+' :: rest => (false, rest)
  | _ => (false, cs)

/-- The exponent at the front, if there is one. -/
def exponent? : List Char → Option (Option Int × List Char)
  | c :: rest =>
      if c == 'e' || c == 'E' then do
        let (negative, rest) := sign rest
        let (ds, rest) ← digits? rest
        let n : Int := decimalValue ds
        some (some (if negative then -n else n), rest)
      else some (none, c :: rest)
  | [] => some (none, [])

/-- A number. -/
def number? (cs : List Char) : Option (Json × List Char) := do
  let (negative, cs) := match cs with
    | '-' :: rest => (true, rest)
    | _ => (false, cs)
  let (whole, cs) ← wholePart? cs
  let (fraction, cs) ← fraction? cs
  let (power, cs) ← exponent? cs
  if fraction.isNone ∧ power.isNone then
    let n : Int := decimalValue whole
    some (.int (if negative then -n else n), cs)
  else
    let places := fraction.getD []
    let x ← Number.Binary64.ofDecimal negative (decimalValue (whole ++ places))
      (power.getD 0 - (places.length : Int))
    some (.float x, cs)

mutual

/-- A value at the front of a text. -/
def value? : Nat → List Char → Option (Json × List Char)
  | 0, _ => none
  | fuel + 1, cs =>
      match skipSpace cs with
      | 'n' :: 'u' :: 'l' :: 'l' :: rest => some (.null, rest)
      | 't' :: 'r' :: 'u' :: 'e' :: rest => some (.bool true, rest)
      | 'f' :: 'a' :: 'l' :: 's' :: 'e' :: rest => some (.bool false, rest)
      | '"' :: rest => (string? rest).map fun (s, rest) => (.string s, rest)
      | '[' :: rest =>
          match skipSpace rest with
          | ']' :: rest => some (.array [], rest)
          | rest => (items? fuel rest).map fun (vs, rest) => (.array vs, rest)
      | '\x7b' :: rest =>
          match skipSpace rest with
          | '\x7d' :: rest => some (.object [], rest)
          | rest => (members? fuel rest).map fun (ms, rest) => (.object ms, rest)
      | cs => number? cs

/-- Items up to the closing bracket, at least one. -/
def items? : Nat → List Char → Option (List Json × List Char)
  | 0, _ => none
  | fuel + 1, cs =>
      match value? fuel cs with
      | none => none
      | some (v, rest) =>
          match skipSpace rest with
          | ']' :: rest => some ([v], rest)
          | ',' :: rest => (items? fuel rest).map fun (vs, rest) => (v :: vs, rest)
          | _ => none

/-- Members up to the closing brace, at least one. -/
def members? : Nat → List Char → Option (List (String × Json) × List Char)
  | 0, _ => none
  | fuel + 1, cs =>
      match skipSpace cs with
      | '"' :: rest =>
          match string? rest with
          | none => none
          | some (k, rest) =>
              match skipSpace rest with
              | ':' :: rest =>
                  match value? fuel rest with
                  | none => none
                  | some (v, rest) =>
                      match skipSpace rest with
                      | '\x7d' :: rest => some ([(k, v)], rest)
                      | ',' :: rest =>
                          (members? fuel rest).map fun (ms, rest) => ((k, v) :: ms, rest)
                      | _ => none
              | _ => none
      | _ => none

end

/-- The value that a whole text denotes. -/
def parse (text : String) : Option Json :=
  match value? (text.toList.length + 1) text.toList with
  | some (v, rest) => if (skipSpace rest).isEmpty then some v else none
  | none => none

end BookCensus.Json
