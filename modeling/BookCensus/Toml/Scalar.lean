import BookCensus.Toml.DateTime
import BookCensus.Toml.Token

/-!
# Numbers, truth values, dates

The values that are written without quotes.  Digits may be set apart by single
underscores; a decimal number has no zeros in front; an integer must fit
sixty-four bits and a floating-point number must be finite.
-/

namespace BookCensus.Toml

open Text

/-- Digits with single underscores between them, which are left out. -/
def plainDigits? (digit : Char → Bool) : List Char → Option (List Char)
  | [] => none
  | [c] => if digit c then some [c] else none
  | c :: '_' :: rest => if digit c then (plainDigits? digit rest).map (c :: ·) else none
  | c :: rest => if digit c then (plainDigits? digit rest).map (c :: ·) else none

/-- The digits of a whole number in base ten: no zero in front of others. -/
def wholeDigits? (cs : List Char) : Option (List Char) :=
  match plainDigits? isDigit cs with
  | some ('0' :: _ :: _) => none
  | answer => answer

/-- A sign at the front. -/
def splitSign : List Char → Option Bool × List Char
  | '-' :: rest => (some true, rest)
  | '+' :: rest => (some false, rest)
  | cs => (none, cs)

/-- Integers that fit sixty-four bits. -/
def fitsInteger (n : Int) : Bool :=
  -9223372036854775808 ≤ n && n ≤ 9223372036854775807

/-- An integer: base ten with a sign allowed, or base sixteen, eight or two. -/
def integer? (cs : List Char) : Option Int := do
  let inBase (base : Nat) (digit : Char → Bool) (cs : List Char) : Option Int := do
    let ds ← plainDigits? digit cs
    some (ds.foldl (fun n c => n * base + (hexValue? c).getD 0) 0 : Nat)
  let n ←
    match cs with
    | '0' :: 'x' :: ds => inBase 16 isHexDigit ds
    | '0' :: 'o' :: ds => inBase 8 (fun c => '0' ≤ c && c ≤ '7') ds
    | '0' :: 'b' :: ds => inBase 2 (fun c => c = '0' || c = '1') ds
    | _ => do
        let (sign, ds) := splitSign cs
        let ds ← wholeDigits? ds
        some (if sign = some true then -(decimalValue ds : Int) else decimalValue ds)
  if fitsInteger n then some n else none

/-- The exponent behind an `e`. -/
def exponent? (cs : List Char) : Option Int := do
  let (sign, ds) := splitSign cs
  let ds ← plainDigits? isDigit ds
  some (if sign = some true then -(decimalValue ds : Int) else decimalValue ds)

/-- A number with a fraction or an exponent or both. -/
def real? (cs : List Char) : Option Real := do
  let (sign, body) := splitSign cs
  let negative := sign = some true
  if body = ['i', 'n', 'f'] then some (.infinite negative)
  else if body = ['n', 'a', 'n'] then some .notANumber
  else
    let isE (c : Char) : Bool := c = 'e' || c = 'E'
    let mantissa := body.takeWhile (!isE ·)
    let power? := (body.dropWhile (!isE ·)).tail?
    let whole ← wholeDigits? (mantissa.takeWhile (· ≠ '.'))
    let places ←
      match (mantissa.dropWhile (· ≠ '.')).tail? with
      | none => if power?.isNone then none else some []
      | some places => plainDigits? isDigit places
    let power ←
      match power? with
      | none => some 0
      | some power => exponent? power
    let value ← Number.Binary64.ofDecimal negative (decimalValue (whole ++ places))
      (power - places.length)
    some (.finite value)

/-- A value written without quotes. -/
def scalar? (cs : List Char) : Option Value :=
  if cs = "true".toList then some (.bool true)
  else if cs = "false".toList then some (.bool false)
  else
    ((integer? cs).map .int).or (((real? cs).map .float).or ((DateTime.read? cs).map .dateTime))

/-! ## Why a word is no value

A word that begins like a number is taken for a misspelt one; any other is
taken for text without its quotes. -/

/-- A complaint about the part of a word from one character up to another. -/
structure Fault where
  problem : Problem
  start : Nat
  stop : Nat

/-- What is wrong with decimal digits that begin at `start`, if something is. -/
def digitsFault? (start : Nat) (mayLeadZero : Bool) (part : NumberPart) (cs : List Char) :
    Option Fault :=
  let count := (cs.filter isDigit).length
  if count = 0 then some ⟨.badNumber part, start, start⟩
  else if count > 1 && cs.head? = some '0' && !mayLeadZero then
    some ⟨.leadingZero, start, start + 1⟩
  else none

/-- A digit or an underscore. -/
def isDigitPlace (c : Char) : Bool :=
  isDigit c || c = '_'

/-- What is wrong with the parts of a number with a point or an exponent. -/
def realFault? (start : Nat) (cs : List Char) : Option Fault :=
  let whole := cs.takeWhile isDigitPlace
  let rest := cs.drop whole.length
  let places := (after? '.' rest).map (·.takeWhile isDigitPlace)
  let width := whole.length + (places.map (·.length + 1)).getD 0
  let rest := cs.drop width
  let power := ((after? 'e' rest).or (after? 'E' rest)).map fun power => (splitSign power).2
  let powerStart := cs.length - (power.map (·.length)).getD 0
  let powerDigits := power.map (·.takeWhile isDigitPlace)
  let width := (powerDigits.map (powerStart + ·.length)).getD width
  (digitsFault? start false .mantissa whole)
    |>.or (places.bind (digitsFault? (start + whole.length + 1) true .fraction))
    |>.or (powerDigits.bind (digitsFault? (start + powerStart) true .exponent))
    |>.or (if width < cs.length then some ⟨.badReal, start + width, start + cs.length⟩ else none)

/-- The first underscore that does not stand between two digits. -/
def underscoreFault? (digit : Char → Bool) (start : Nat) : Option Char → List Char → Option Fault
  | last, '_' :: rest =>
      if last.any digit && rest.head?.any digit then
        underscoreFault? digit (start + 1) (some '_') rest
      else some ⟨.strayUnderscore, start, start + 1⟩
  | _, c :: rest => underscoreFault? digit (start + 1) (some c) rest
  | _, [] => none

/-- What is wrong with a number in base sixteen, eight or two, or behind another
letter: `letter` is the sign of the base. -/
def baseFault? (isSigned : Bool) (start length : Nat) (letter : Char) (digits : List Char) :
    Option Fault :=
  let inBase (name : String) (digit : Char → Bool) : Option Fault :=
    let signed := if isSigned then some ⟨.signedBase, 0, 1⟩ else none
    let upper :=
      if letter = lowerChar letter then none
      else some ⟨.upperBase (String.ofList ['0', lowerChar letter]), start, start + 2⟩
    let wrong := digits.findIdx? fun c => !(digit c || c = '_')
    let wrong :=
      if digits.isEmpty then some ⟨.badDigits name, start + 2, start + 2⟩
      else wrong.map fun i => ⟨.badDigits name, start + 2 + i, start + 2 + i⟩
    signed
      |>.or upper
      |>.or wrong
      |>.or (underscoreFault? digit (start + 2) none digits)
      |>.or (some ⟨.hugeInteger, 0, length⟩)
  match lowerChar letter with
  | 'x' => inBase "hexadecimal" isHexDigit
  | 'o' => inBase "octal" fun c => '0' ≤ c && c ≤ '7'
  | 'b' => inBase "binary" fun c => c = '0' || c = '1'
  | _ => none

/-- What is wrong with a word that begins like a number at `start`; the whole
word has `length` characters. -/
def numberFault (isSigned : Bool) (start length : Nat) (cs : List Char) : Fault :=
  let rest := cs.dropWhile isDigit
  let decimal : Fault :=
    if rest.isEmpty then
      (digitsFault? start false .mantissa cs).getD ⟨.hugeInteger, 0, length⟩
    else if rest.head? = some '-' || rest.head? = some ':' then ⟨.badDateTime, 0, length⟩
    else if rest.contains ' ' then ⟨.notQuoted, 0, length⟩
    else if rest.any fun c => c = '.' || c = 'e' || c = 'E' then
      (realFault? start cs)
        |>.or (underscoreFault? isDigit start none cs)
        |>.getD ⟨.hugeReal, 0, length⟩
    else if rest.head? = some '_' then
      (underscoreFault? isDigit start none cs).getD
        ((digitsFault? start false .mantissa cs).getD ⟨.hugeInteger, 0, length⟩)
    else ⟨.notQuoted, 0, length⟩
  match cs with
  | '0' :: letter :: digits => (baseFault? isSigned start length letter digits).getD decimal
  | _ => decimal

/-- A word that differs from a name only in the case of its letters is that name
misspelt. -/
def nameFault (length : Nat) (name : String) (cs : List Char) : Fault :=
  if lowerChars cs = name.toList then ⟨.misspelt name, 0, length⟩ else ⟨.notQuoted, 0, length⟩

/-- A character that a number may begin with. -/
def startsNumber (c : Char) : Bool :=
  isDigit c || c = '_' || c = '.'

/-- What is wrong with a word that is no value. -/
def wordFault (cs : List Char) : Fault :=
  let length := cs.length
  let afterSign (value : List Char) : Fault :=
    match value with
    | c :: _ =>
        if c = '+' || c = '-' then ⟨.secondNumberSign, 1, 2⟩
        else if startsNumber c then numberFault true 1 length value
        else if c = 'i' || c = 'I' then nameFault length "inf" value
        else nameFault length "nan" value
    | [] => ⟨.notQuoted, 0, length⟩
  match cs with
  | '+' :: value => afterSign value
  | '-' :: value => afterSign value
  | c :: _ =>
      if startsNumber c then numberFault false 0 length cs
      else if c = 't' || c = 'T' then nameFault length "true" cs
      else if c = 'f' || c = 'F' then nameFault length "false" cs
      else if c = 'i' || c = 'I' then nameFault length "inf" cs
      else nameFault length "nan" cs
  | [] => ⟨.notQuoted, 0, 0⟩

/-- What a word means. -/
def scalar (t : Token) : Except Error Value :=
  match scalar? t.text with
  | some value => .ok value
  | none =>
      let fault := wordFault t.text
      complain fault.problem (t.span.part fault.start fault.stop)

end BookCensus.Toml
