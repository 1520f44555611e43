import BookCensus.Json.Parser
import Mathlib.Data.List.DropRight

/-!
# The grammar of JSON

`Denotes` says by the rules of the grammar alone which value a text stands for: an
element is a value between spaces; a value is a literal, a number, a string, or
brackets around elements or members with commas between them.  There is no
reader in it and no longest match: every rule says what the pieces of a text are.

Main statements:

* `parse_of_denotes` — what the grammar derives is read as what it denotes;
* `Denotes.unique` — so a text denotes at most one value.

The reader looks at what follows a number to see where it ends, and at nothing beyond
any other value.  What follows a value in the grammar ends a number (`Ends`).
-/

namespace BookCensus.Json

open Text

/-! ## Rules -/

/-- Nothing but the space that may stand around elements. -/
def Spacing (w : List Char) : Prop :=
  ∀ c ∈ w, isSpace c = true

/-- Four digits in base sixteen, and their value. -/
inductive Quad : List Char → Nat → Prop
  | digits {a b c d : Char} {w x y z : Nat} (ha : hexValue? a = some w)
      (hb : hexValue? b = some x) (hc : hexValue? c = some y) (hd : hexValue? d = some z) :
      Quad [a, b, c, d] (w * 4096 + x * 256 + y * 16 + z)

/-- The letters that stand for a character after a backslash. -/
def escapeLetters : List (Char × Char) :=
  [('"', '"'), ('\\', '\\'), ('/', '/'), ('b', '\x08'), ('f', '\x0c'), ('n', '\n'),
    ('r', '\r'), ('t', '\t')]

/-- The ways to write a character in a string: as itself, with an escape letter, by its
code, or by the two halves of a surrogate pair. -/
inductive Spelling : List Char → Char → Prop
  | plain {c : Char} (hcontrol : 0x20 ≤ c.toNat) (hquote : c ≠ '"') (hbackslash : c ≠ '\\') :
      Spelling [c] c
  | letter {e c : Char} (h : (e, c) ∈ escapeLetters) : Spelling ['\\', e] c
  | code {quad : List Char} {c : Char} (h : Quad quad c.toNat) :
      Spelling ('\\' :: 'u' :: quad) c
  | pair {high low : List Char} {c : Char} {m n : Nat} (hm : m < 0x400) (hn : n < 0x400)
      (hhigh : Quad high (0xd800 + m)) (hlow : Quad low (0xdc00 + n))
      (hc : c.toNat = 0x10000 + m * 0x400 + n) :
      Spelling ('\\' :: 'u' :: (high ++ '\\' :: 'u' :: low)) c

/-- What stands between the quotation marks of a string. -/
inductive Contents : List Char → List Char → Prop
  | nil : Contents [] []
  | cons {spelling rest s : List Char} {c : Char} (hc : Spelling spelling c)
      (hrest : Contents rest s) : Contents (spelling ++ rest) (c :: s)

/-- A string between quotation marks. -/
inductive Quoted : List Char → String → Prop
  | marks {cs s : List Char} (h : Contents cs s) :
      Quoted ('"' :: (cs ++ ['"'])) (String.ofList s)

/-- One or more digits. -/
def Digits (ds : List Char) : Prop :=
  ds ≠ [] ∧ ∀ d ∈ ds, isDigit d = true

/-- The digits of a whole part: a zero stands alone or not at the front. -/
def Whole (ds : List Char) : Prop :=
  Digits ds ∧ (ds.head? = some '0' → ds = ['0'])

/-- A fraction and its digits, or none. -/
inductive Fraction : List Char → Option (List Char) → Prop
  | none : Fraction [] none
  | places {ds : List Char} (h : Digits ds) : Fraction ('.' :: ds) (some ds)

/-- A sign in front of an exponent, and whether it is a minus. -/
def exponentSigns : List (List Char × Bool) :=
  [([], false), (['+'], false), (['-'], true)]

/-- An exponent and its value, or none. -/
inductive Exponent : List Char → Option Int → Prop
  | none : Exponent [] none
  | power {e : Char} {mark ds : List Char} {negative : Bool} (he : e = 'e' ∨ e = 'E')
      (hmark : (mark, negative) ∈ exponentSigns) (h : Digits ds) :
      Exponent (e :: (mark ++ ds))
        (some (if negative then -(decimalValue ds : Int) else decimalValue ds))

/-- The value of a number: an integer when it has neither fraction nor exponent, else
the nearest floating-point number, if it has one. -/
def numberValue? (negative : Bool) (whole : List Char) (places : Option (List Char))
    (power : Option Int) : Option Json :=
  if places.isNone ∧ power.isNone then
    some (.int (if negative then -(decimalValue whole : Int) else decimalValue whole))
  else
    (Number.Binary64.ofDecimal negative (decimalValue (whole ++ places.getD []))
      (power.getD 0 - ((places.getD []).length : Int))).map .float

/-- A sign in front of a number, and whether there is one. -/
def numberSigns : List (List Char × Bool) :=
  [([], false), (['-'], true)]

/-- A number and its value. -/
inductive Numeral : List Char → Json → Prop
  | parts {mark ds f e : List Char} {negative : Bool} {places : Option (List Char)}
      {power : Option Int} {v : Json} (hmark : (mark, negative) ∈ numberSigns) (hds : Whole ds)
      (hf : Fraction f places) (he : Exponent e power)
      (hv : numberValue? negative ds places power = some v) :
      Numeral (mark ++ (ds ++ (f ++ e))) v

mutual

/-- A value. -/
inductive ValueText : List Char → Json → Prop
  | null : ValueText ['n', 'u', 'l', 'l'] .null
  | affirmed : ValueText ['t', 'r', 'u', 'e'] (.bool true)
  | denied : ValueText ['f', 'a', 'l', 's', 'e'] (.bool false)
  | number {cs : List Char} {v : Json} (h : Numeral cs v) : ValueText cs v
  | string {cs : List Char} {s : String} (h : Quoted cs s) : ValueText cs (.string s)
  | emptyArray {w : List Char} (hw : Spacing w) : ValueText ('[' :: (w ++ [']'])) (.array [])
  | array {cs : List Char} {vs : List Json} (h : ItemsText cs vs) :
      ValueText ('[' :: (cs ++ [']'])) (.array vs)
  | emptyObject {w : List Char} (hw : Spacing w) :
      ValueText ('\x7b' :: (w ++ ['\x7d'])) (.object [])
  | object {cs : List Char} {ms : List (String × Json)} (h : MembersText cs ms) :
      ValueText ('\x7b' :: (cs ++ ['\x7d'])) (.object ms)

/-- A value between spaces. -/
inductive ElementText : List Char → Json → Prop
  | spaced {before cs after : List Char} {v : Json} (hbefore : Spacing before)
      (h : ValueText cs v) (hafter : Spacing after) : ElementText (before ++ (cs ++ after)) v

/-- One or more elements with commas between them. -/
inductive ItemsText : List Char → List Json → Prop
  | last {cs : List Char} {v : Json} (h : ElementText cs v) : ItemsText cs [v]
  | more {cs rest : List Char} {v : Json} {vs : List Json} (h : ElementText cs v)
      (hrest : ItemsText rest vs) : ItemsText (cs ++ ',' :: rest) (v :: vs)

/-- A name, a colon and an element. -/
inductive MemberText : List Char → String × Json → Prop
  | named {before key gap cs : List Char} {name : String} {v : Json} (hbefore : Spacing before)
      (hkey : Quoted key name) (hgap : Spacing gap) (h : ElementText cs v) :
      MemberText (before ++ (key ++ (gap ++ ':' :: cs))) (name, v)

/-- One or more members with commas between them. -/
inductive MembersText : List Char → List (String × Json) → Prop
  | last {cs : List Char} {m : String × Json} (h : MemberText cs m) : MembersText cs [m]
  | more {cs rest : List Char} {m : String × Json} {ms : List (String × Json)}
      (h : MemberText cs m) (hrest : MembersText rest ms) :
      MembersText (cs ++ ',' :: rest) (m :: ms)

end

/-- A text stands for a value: it is an element of the grammar. -/
def Denotes (text : String) (v : Json) : Prop :=
  ElementText text.toList v

/-! ## Spaces -/

/-- There may be no spaces at all. -/
theorem spacing_nil : Spacing [] := fun _ h => nomatch h

/-- Spaces in front of a text are dropped. -/
theorem skipSpace_append {w : List Char} (hw : Spacing w) (cs : List Char) :
    skipSpace (w ++ cs) = skipSpace cs := by
  rw [skipSpace, List.dropWhile_append_of_pos hw, skipSpace]

/-- Where no space is in front nothing is dropped. -/
theorem skipSpace_cons {c : Char} (hc : isSpace c = false) (cs : List Char) :
    skipSpace (c :: cs) = c :: cs := by
  rw [skipSpace, List.dropWhile_cons_of_neg (by simp [hc])]

/-- No spaces are left to skip. -/
theorem skipSpace_skipSpace (cs : List Char) : skipSpace (skipSpace cs) = skipSpace cs :=
  List.dropWhile_idempotent isSpace cs

/-- A value is read from behind the spaces in front of it. -/
theorem value?_skipSpace (fuel : Nat) (cs : List Char) :
    value? fuel (skipSpace cs) = value? fuel cs := by
  cases fuel with
  | zero => rfl
  | succ fuel => rw [value?, value?, skipSpace_skipSpace]

/-- Spaces in front of an item do not count. -/
theorem items?_skipSpace (fuel : Nat) (cs : List Char) :
    items? fuel (skipSpace cs) = items? fuel cs := by
  cases fuel with
  | zero => rfl
  | succ fuel => rw [items?, items?, value?_skipSpace]

/-- Spaces in front of a member do not count. -/
theorem members?_skipSpace (fuel : Nat) (cs : List Char) :
    members? fuel (skipSpace cs) = members? fuel cs := by
  cases fuel with
  | zero => rfl
  | succ fuel => rw [members?, members?, skipSpace_skipSpace]

/-! ## Strings -/

/-- Four digits in base sixteen are read as their number, whatever follows. -/
theorem hexQuad?_append {quad : List Char} {n : Nat} (h : Quad quad n) (rest : List Char) :
    hexQuad? (quad ++ rest) = some (n, rest) := by
  cases h with
  | digits ha hb hc hd => simp [hexQuad?, ha, hb, hc, hd]

/-- A character is found by its number. -/
theorem charOfCode?_toNat (c : Char) : charOfCode? c.toNat = some c := by
  have hvalid : c.toNat.isValidChar := c.valid
  rw [charOfCode?, if_pos hvalid, Char.ofNat_toNat]

/-- A code that a character has is no half of a surrogate pair. -/
theorem unicodeEscape?_code {quad : List Char} {c : Char} (h : Quad quad c.toNat)
    (rest : List Char) : unicodeEscape? (quad ++ rest) = some (c, rest) := by
  have hhalf : ¬ (0xd800 ≤ c.toNat ∧ c.toNat < 0xdc00) := by
    have hvalid : c.toNat < 0xd800 ∨ 0xdfff < c.toNat ∧ c.toNat < 0x110000 := c.valid
    omega
  simp [unicodeEscape?, hexQuad?_append h, hhalf, charOfCode?_toNat]

/-- Two escapes for halves of a character are read as the character. -/
theorem unicodeEscape?_pair {high low : List Char} {c : Char} {m n : Nat} (hm : m < 0x400)
    (hn : n < 0x400) (hhigh : Quad high (0xd800 + m)) (hlow : Quad low (0xdc00 + n))
    (hc : c.toNat = 0x10000 + m * 0x400 + n) (rest : List Char) :
    unicodeEscape? (high ++ '\\' :: 'u' :: (low ++ rest)) = some (c, rest) := by
  have hcode : charOfCode? (0x10000 + m * 0x400 + n) = some c := hc ▸ charOfCode?_toNat c
  have hfirst : 0xd800 ≤ 0xd800 + m ∧ 0xd800 + m < 0xdc00 := by omega
  have hsecond : 0xdc00 ≤ 0xdc00 + n ∧ 0xdc00 + n < 0xe000 := by omega
  simp only [unicodeEscape?, hexQuad?_append hhigh, hexQuad?_append hlow, Option.bind_eq_bind,
    Option.bind_some, if_pos hfirst, if_pos hsecond, Nat.add_sub_cancel_left, hcode]

/-- A letter behind a backslash is read as what it stands for. -/
theorem escape?_letter {e c : Char} (h : (e, c) ∈ escapeLetters) (rest : List Char) :
    escape? (e :: rest) = some (c, rest) := by
  simp only [escapeLetters, List.mem_cons, Prod.mk.injEq, List.not_mem_nil, or_false] at h
  rcases h with ⟨rfl, rfl⟩ | ⟨rfl, rfl⟩ | ⟨rfl, rfl⟩ | ⟨rfl, rfl⟩ | ⟨rfl, rfl⟩ | ⟨rfl, rfl⟩
    | ⟨rfl, rfl⟩ | ⟨rfl, rfl⟩ <;> rfl

/-- One character of a string is read from any spelling of it. -/
theorem stringBody?_spelling {spelling : List Char} {c : Char} (h : Spelling spelling c)
    (fuel : Nat) (done rest : List Char) :
    stringBody? (fuel + 1) done (spelling ++ rest) = stringBody? fuel (c :: done) rest := by
  cases h with
  | plain hcontrol hquote hbackslash =>
      have hnot : ¬ c.toNat < 0x20 := by omega
      rw [List.singleton_append, stringBody?, if_neg hnot]
      · exact hquote
      · exact hbackslash
  | letter h => simp [stringBody?, escape?_letter h]
  | code h => simp [stringBody?, escape?, unicodeEscape?_code h]
  | pair hm hn hhigh hlow hc =>
      have hpair := unicodeEscape?_pair hm hn hhigh hlow hc rest
      simp [stringBody?, escape?, hpair]

/-- A string is read up to its closing mark. -/
theorem stringBody?_contents {cs s : List Char} (h : Contents cs s) {fuel : Nat}
    (hfuel : cs.length < fuel) (done rest : List Char) :
    stringBody? fuel done (cs ++ '"' :: rest) = some (done.reverse ++ s, rest) := by
  induction h generalizing fuel done with
  | nil =>
      obtain ⟨n, rfl⟩ := Nat.exists_eq_add_of_lt hfuel
      simp [stringBody?]
  | @cons spelling more s c hc hrest ih =>
      have hpositive : 0 < spelling.length := by cases hc <;> simp
      rw [List.length_append] at hfuel
      obtain ⟨n, rfl⟩ : ∃ n, fuel = n + 1 := ⟨fuel - 1, by omega⟩
      rw [List.append_assoc, stringBody?_spelling hc, ih (by omega), List.reverse_cons,
        List.append_assoc, List.singleton_append]

/-- A string between quotation marks is read behind the first of them. -/
theorem string?_quoted {cs : List Char} {s : String} (h : Quoted cs s) (rest : List Char) :
    ∃ inside, cs ++ rest = '"' :: inside ∧ string? inside = some (s, rest) := by
  cases h with
  | @marks cs s h =>
      refine ⟨cs ++ '"' :: rest, by simp, ?_⟩
      have hfuel : cs.length < (cs ++ '"' :: rest).length + 1 := by
        rw [List.length_append]
        omega
      rw [string?, stringBody?_contents h hfuel]
      rfl

/-! ## Numbers -/

/-- No number goes on here. -/
def Ends (rest : List Char) : Prop :=
  ∀ c ∈ rest.head?, isDigit c = false ∧ c ≠ '.' ∧ c ≠ 'e' ∧ c ≠ 'E'

/-- Digits are read to the last of them. -/
theorem digits?_append {ds rest : List Char} (h : Digits ds)
    (hrest : ∀ c ∈ rest.head?, isDigit c = false) : digits? (ds ++ rest) = some (ds, rest) := by
  have hstop : rest.takeWhile isDigit = [] ∧ rest.dropWhile isDigit = rest := by
    cases rest with
    | nil => exact ⟨rfl, rfl⟩
    | cons c more =>
        have hc : ¬ isDigit c = true := by simp [hrest c rfl]
        exact ⟨List.takeWhile_cons_of_neg hc, List.dropWhile_cons_of_neg hc⟩
  obtain ⟨hne, hdigits⟩ := h
  simp only [digits?, List.takeWhile_append_of_pos hdigits, List.dropWhile_append_of_pos hdigits,
    hstop, List.append_nil, List.isEmpty_iff, hne, if_false]

/-- The digits of a number are read up to what is no digit. -/
theorem wholePart?_append {ds rest : List Char} (h : Whole ds)
    (hrest : ∀ c ∈ rest.head?, isDigit c = false) :
    wholePart? (ds ++ rest) = some (ds, rest) := by
  obtain ⟨hdigits, hzero⟩ := h
  by_cases hhead : ds.head? = some '0'
  · rw [hzero hhead]
    rfl
  · rw [wholePart?, digits?_append hdigits hrest]
    intro more hmore
    obtain ⟨d, ds', rfl⟩ := List.exists_cons_of_ne_nil hdigits.1
    rw [List.cons_append, List.cons.injEq] at hmore
    exact hhead (congrArg some hmore.1)

/-- A fraction is read up to what is no digit, and no second one behind it. -/
theorem fraction?_append {f rest : List Char} {places : Option (List Char)}
    (h : Fraction f places) (hrest : ∀ c ∈ rest.head?, isDigit c = false ∧ c ≠ '.') :
    fraction? (f ++ rest) = some (places, rest) := by
  cases h with
  | none =>
      rw [List.nil_append, fraction?]
      rintro more rfl
      exact (hrest '.' rfl).2 rfl
  | places h =>
      rw [List.cons_append, fraction?, digits?_append h fun c hc => (hrest c hc).1]
      rfl

/-- A text of digits begins with one, so with no sign. -/
theorem Digits.exists_cons {ds : List Char} (h : Digits ds) :
    ∃ d more, ds = d :: more ∧ isDigit d = true ∧ d ≠ '-' ∧ d ≠ '+' := by
  obtain ⟨d, more, rfl⟩ := List.exists_cons_of_ne_nil h.1
  have hd := h.2 d List.mem_cons_self
  refine ⟨d, more, rfl, hd, ?_, ?_⟩ <;> rintro rfl <;> simp [isDigit] at hd

/-- The sign of an exponent is read, or that there is none. -/
theorem sign_append {mark ds : List Char} {negative : Bool}
    (hmark : (mark, negative) ∈ exponentSigns) (h : Digits ds) (rest : List Char) :
    sign (mark ++ (ds ++ rest)) = (negative, ds ++ rest) := by
  obtain ⟨d, more, rfl, -, hminus, hplus⟩ := h.exists_cons
  simp only [exponentSigns, List.mem_cons, Prod.mk.injEq, List.not_mem_nil, or_false] at hmark
  rcases hmark with ⟨rfl, rfl⟩ | ⟨rfl, rfl⟩ | ⟨rfl, rfl⟩
  · simp [sign, hminus, hplus]
  · rfl
  · rfl

/-- An exponent is read up to where the number ends. -/
theorem exponent?_append {e rest : List Char} {power : Option Int} (h : Exponent e power)
    (hrest : Ends rest) : exponent? (e ++ rest) = some (power, rest) := by
  cases h with
  | none =>
      cases rest with
      | nil => rfl
      | cons c more =>
          obtain ⟨-, -, hlower, hupper⟩ := hrest c rfl
          simp [exponent?, hlower, hupper]
  | @power e mark ds negative he hmark h =>
      have hletter : (e == 'e' || e == 'E') = true := by simpa using he
      rw [List.cons_append, List.append_assoc, exponent?, if_pos hletter, sign_append hmark h]
      simp [digits?_append h fun c hc => (hrest c hc).1]

/-- Neither digits nor a point follow in front of an exponent or the end of a number. -/
theorem Exponent.head_append {e rest : List Char} {power : Option Int} (h : Exponent e power)
    (hrest : Ends rest) : ∀ c ∈ (e ++ rest).head?, isDigit c = false ∧ c ≠ '.' := by
  cases h with
  | none => exact fun c hc => ⟨(hrest c hc).1, (hrest c hc).2.1⟩
  | power he _ _ =>
      intro c hc
      obtain rfl := Option.some.inj hc
      rcases he with rfl | rfl <;> decide

/-- No digits follow in front of a fraction, an exponent or the end of a number. -/
theorem Fraction.head_append {f rest : List Char} {places : Option (List Char)}
    (h : Fraction f places) (hrest : ∀ c ∈ rest.head?, isDigit c = false ∧ c ≠ '.') :
    ∀ c ∈ (f ++ rest).head?, isDigit c = false := by
  cases h with
  | none => exact fun c hc => (hrest c hc).1
  | places _ =>
      intro c hc
      obtain rfl := Option.some.inj hc
      rfl

/-- A number begins with a minus or a digit. -/
theorem Numeral.exists_cons {cs : List Char} {v : Json} (h : Numeral cs v) :
    ∃ c more, cs = c :: more ∧ (c = '-' ∨ isDigit c = true) := by
  cases h with
  | parts hmark hds _ _ _ =>
      obtain ⟨d, more, rfl, hd, -⟩ := hds.1.exists_cons
      simp only [numberSigns, List.mem_cons, Prod.mk.injEq, List.not_mem_nil, or_false] at hmark
      rcases hmark with ⟨rfl, -⟩ | ⟨rfl, -⟩
      · exact ⟨d, _, rfl, Or.inr hd⟩
      · exact ⟨'-', _, rfl, Or.inl rfl⟩

/-- A sign and what follows it, as a number is read. -/
def unsigned? (negative : Bool) (cs : List Char) : Option (Json × List Char) := do
  let (whole, cs) ← wholePart? cs
  let (fraction, cs) ← fraction? cs
  let (power, cs) ← exponent? cs
  let v ← numberValue? negative whole fraction power
  some (v, cs)

/-- A number is read behind its sign. -/
theorem number?_eq_unsigned? {mark cs : List Char} {negative : Bool}
    (hmark : (mark, negative) ∈ numberSigns) (hcs : cs.head? ≠ some '-') :
    number? (mark ++ cs) = unsigned? negative cs := by
  unfold number?
  split
  next negative' cs' hsign =>
    have hpair : negative' = negative ∧ cs' = cs := by
      simp only [numberSigns, List.mem_cons, Prod.mk.injEq, List.not_mem_nil, or_false] at hmark
      rcases hmark with ⟨rfl, rfl⟩ | ⟨rfl, rfl⟩
      · rw [List.nil_append] at hsign
        split at hsign
        · exact absurd rfl hcs
        · cases hsign
          exact ⟨rfl, rfl⟩
      · cases hsign
        exact ⟨rfl, rfl⟩
    obtain ⟨rfl, rfl⟩ := hpair
    -- Only the last step differs: the value in two branches, or from `numberValue?`.
    simp only [unsigned?, Option.bind_eq_bind]
    congr 1
    funext w
    congr 1
    funext f
    congr 1
    funext e
    rw [numberValue?]
    split
    · rfl
    · cases Number.Binary64.ofDecimal negative' (decimalValue (w.1 ++ f.1.getD []))
        (e.1.getD 0 - ((f.1.getD []).length : Int)) <;> rfl

/-- A number is read up to where none goes on. -/
theorem number?_append {cs rest : List Char} {v : Json} (h : Numeral cs v) (hrest : Ends rest) :
    number? (cs ++ rest) = some (v, rest) := by
  cases h with
  | @parts mark ds f e negative places power v hmark hds hf he hv =>
      obtain ⟨d, more, hd, -, hminus, -⟩ := hds.1.exists_cons
      have hhead : (ds ++ (f ++ (e ++ rest))).head? ≠ some '-' := by
        rw [hd]
        simpa using hminus
      have hafter := he.head_append hrest
      rw [List.append_assoc, List.append_assoc, List.append_assoc,
        number?_eq_unsigned? hmark hhead, unsigned?,
        wholePart?_append hds (hf.head_append hafter)]
      simp only [Option.bind_eq_bind, Option.bind_some, fraction?_append hf hafter,
        exponent?_append he hrest, hv]

/-! ## Values -/

/-- A number ends in front of every character that cannot be part of one. -/
theorem ends_cons {c : Char} (h : isDigit c = false ∧ c ≠ '.' ∧ c ≠ 'e' ∧ c ≠ 'E')
    (rest : List Char) : Ends (c :: rest) := by
  intro d hd
  obtain rfl := Option.some.inj hd
  exact h

/-- A number ends where the text ends. -/
theorem ends_nil : Ends [] := fun _ h => nomatch h

/-- A space ends a number. -/
theorem Spacing.ends_append {w rest : List Char} (hw : Spacing w) (hrest : Ends rest) :
    Ends (w ++ rest) := by
  cases w with
  | nil => exact hrest
  | cons c more =>
      refine ends_cons ?_ _
      have hc := hw c List.mem_cons_self
      simp only [isSpace, Bool.or_eq_true, beq_iff_eq] at hc
      rcases hc with ((rfl | rfl) | rfl) | rfl <;> decide

/-- The beginning of a number is neither a space nor a closing bracket. -/
theorem startsNumber_separate {c : Char} (hc : c = '-' ∨ isDigit c = true) :
    isSpace c = false ∧ c ≠ ']' := by
  rcases hc with rfl | hc
  · decide
  · constructor
    · rw [Bool.eq_false_iff]
      intro hspace
      simp only [isSpace, Bool.or_eq_true, beq_iff_eq] at hspace
      rcases hspace with ((rfl | rfl) | rfl) | rfl <;> simp [isDigit] at hc
    · rintro rfl
      simp [isDigit] at hc

/-- The beginning of a value is neither a space nor a closing bracket. -/
theorem ValueText.exists_cons {cs : List Char} {v : Json} (h : ValueText cs v) :
    ∃ c more, cs = c :: more ∧ isSpace c = false ∧ c ≠ ']' := by
  cases h with
  | null => exact ⟨'n', _, rfl, by decide⟩
  | affirmed => exact ⟨'t', _, rfl, by decide⟩
  | denied => exact ⟨'f', _, rfl, by decide⟩
  | number h =>
      obtain ⟨c, more, rfl, hc⟩ := h.exists_cons
      exact ⟨c, more, rfl, startsNumber_separate hc⟩
  | string h =>
      cases h with
      | marks h => exact ⟨'"', _, rfl, by decide⟩
  | emptyArray hw => exact ⟨'[', _, rfl, by decide⟩
  | array h => exact ⟨'[', _, rfl, by decide⟩
  | emptyObject hw => exact ⟨'\x7b', _, rfl, by decide⟩
  | object h => exact ⟨'\x7b', _, rfl, by decide⟩

/-- Where a number begins, a number is read. -/
theorem value?_number {c : Char} (hc : c = '-' ∨ isDigit c = true) (fuel : Nat)
    (rest : List Char) : value? (fuel + 1) (c :: rest) = number? (c :: rest) := by
  rw [value?, skipSpace_cons (startsNumber_separate hc).1]
  split <;> simp_all [isDigit]

/-- With `fuel`, every text of a value is read up to where no number goes on. -/
def ReadsValues (fuel : Nat) : Prop :=
  ∀ {cs rest : List Char} {v : Json}, ValueText cs v → cs.length ≤ fuel → Ends rest →
    value? fuel (cs ++ rest) = some (v, rest)

/-- With `fuel`, every text of items is read up to a closing bracket. -/
def ReadsItems (fuel : Nat) : Prop :=
  ∀ {cs rest : List Char} {vs : List Json}, ItemsText cs vs → cs.length < fuel →
    items? fuel (cs ++ ']' :: rest) = some (vs, rest)

/-- With `fuel`, every text of members is read up to a closing brace. -/
def ReadsMembers (fuel : Nat) : Prop :=
  ∀ {cs rest : List Char} {ms : List (String × Json)}, MembersText cs ms → cs.length < fuel →
    members? fuel (cs ++ '\x7d' :: rest) = some (ms, rest)

/-- What follows an element stands behind its value and the spaces after it. -/
theorem ReadsValues.element {fuel : Nat} (hvalues : ReadsValues fuel) {cs rest : List Char}
    {v : Json} (h : ElementText cs v) (hfuel : cs.length ≤ fuel) (hrest : Ends rest) :
    ∃ after, value? fuel (cs ++ rest) = some (v, after) ∧ skipSpace after = skipSpace rest := by
  cases h with
  | @spaced before cs after v hbefore h hafter =>
      refine ⟨after ++ rest, ?_, skipSpace_append hafter rest⟩
      have hlength : cs.length ≤ fuel := by
        simp only [List.length_append] at hfuel
        omega
      rw [← value?_skipSpace, List.append_assoc, skipSpace_append hbefore, value?_skipSpace,
        List.append_assoc]
      exact hvalues h hlength (hafter.ends_append hrest)

/-- The step for items: an item is a value, and with one unit of fuel less the others are read. -/
theorem readsItems_succ {fuel : Nat} (hvalues : ReadsValues fuel) (hitems : ReadsItems fuel) :
    ReadsItems (fuel + 1) := by
  intro cs rest vs h hfuel
  cases h with
  | last h =>
      obtain ⟨after, hread, hafter⟩ := hvalues.element h (by omega)
        (ends_cons (c := ']') (by decide) rest)
      rw [items?, hread]
      simp only [hafter, skipSpace_cons (c := ']') (by decide)]
  | @more cs more v vs h hrest =>
      rw [List.length_append, List.length_cons] at hfuel
      obtain ⟨after, hread, hafter⟩ := hvalues.element h (by omega)
        (ends_cons (c := ',') (by decide) (more ++ ']' :: rest))
      rw [List.append_assoc, List.cons_append, items?, hread]
      simp only [hafter, skipSpace_cons (c := ',') (by decide)]
      rw [hitems hrest (by omega)]
      rfl

/-- A member is read in three stages: its name, the colon and its element. -/
theorem ReadsValues.member {fuel : Nat} (hvalues : ReadsValues fuel) {cs rest : List Char}
    {name : String} {v : Json} (h : MemberText cs (name, v)) (hfuel : cs.length ≤ fuel + 1)
    (hrest : Ends rest) :
    ∃ inside behind element after, skipSpace (cs ++ rest) = '"' :: inside ∧
      string? inside = some (name, behind) ∧ skipSpace behind = ':' :: element ∧
      value? fuel element = some (v, after) ∧ skipSpace after = skipSpace rest := by
  cases h with
  | @named before key gap cs name v hbefore hkey hgap h =>
      obtain ⟨inside, hinside, hstring⟩ := string?_quoted hkey (gap ++ ':' :: (cs ++ rest))
      obtain ⟨after, hread, hafter⟩ := hvalues.element h
        (by simp only [List.length_append, List.length_cons] at hfuel; omega) hrest
      refine ⟨inside, gap ++ ':' :: (cs ++ rest), cs ++ rest, after, ?_, hstring, ?_, hread,
        hafter⟩
      · simp only [List.append_assoc, List.cons_append]
        rw [skipSpace_append hbefore, hinside, skipSpace_cons (by decide)]
      · rw [skipSpace_append hgap, skipSpace_cons (by decide)]

/-- The step for members: a name, a value, and the other members. -/
theorem readsMembers_succ {fuel : Nat} (hvalues : ReadsValues fuel)
    (hmembers : ReadsMembers fuel) : ReadsMembers (fuel + 1) := by
  intro cs rest ms h hfuel
  cases h with
  | @last cs m h =>
      obtain ⟨inside, behind, element, after, hname, hstring, hcolon, hread, hafter⟩ :=
        hvalues.member h (by omega) (ends_cons (c := '\x7d') (by decide) rest)
      rw [members?, hname]
      simp only [hstring, hcolon, hread, hafter, skipSpace_cons (c := '\x7d') (by decide)]
  | @more cs more m ms h hrest =>
      rw [List.length_append, List.length_cons] at hfuel
      obtain ⟨inside, behind, element, after, hname, hstring, hcolon, hread, hafter⟩ :=
        hvalues.member h (by omega)
          (ends_cons (c := ',') (by decide) (more ++ '\x7d' :: rest))
      rw [List.append_assoc, List.cons_append, members?, hname]
      simp only [hstring, hcolon, hread, hafter, skipSpace_cons (c := ',') (by decide)]
      rw [hmembers hrest (by omega)]
      rfl

/-- Items begin, behind spaces, with the beginning of a value. -/
theorem ItemsText.skipSpace_append {cs : List Char} {vs : List Json} (h : ItemsText cs vs)
    (rest : List Char) : ∃ c more, skipSpace (cs ++ rest) = c :: more ∧ c ≠ ']' := by
  have helement : ∀ {cs v} (rest : List Char), ElementText cs v →
      ∃ c more, skipSpace (cs ++ rest) = c :: more ∧ c ≠ ']' := by
    intro cs v rest h
    cases h with
    | @spaced before cs after v hbefore h _ =>
        obtain ⟨c, more, rfl, hspace, hc⟩ := h.exists_cons
        refine ⟨c, more ++ (after ++ rest), ?_, hc⟩
        rw [List.append_assoc, Json.skipSpace_append hbefore, List.append_assoc]
        exact skipSpace_cons hspace _
  cases h with
  | last h => exact helement rest h
  | more h _ =>
      rw [List.append_assoc]
      exact helement _ h

/-- Members begin, behind spaces, with a quotation mark. -/
theorem MembersText.skipSpace_append {cs : List Char} {ms : List (String × Json)}
    (h : MembersText cs ms) (rest : List Char) :
    ∃ more, skipSpace (cs ++ rest) = '"' :: more := by
  have hmember : ∀ {cs m} (rest : List Char), MemberText cs m →
      ∃ more, skipSpace (cs ++ rest) = '"' :: more := by
    intro cs m rest h
    cases h with
    | @named before key gap cs name v hbefore hkey _ _ =>
        obtain ⟨inside, hinside, -⟩ := string?_quoted hkey (gap ++ ':' :: cs ++ rest)
        refine ⟨inside, ?_⟩
        rw [List.append_assoc, Json.skipSpace_append hbefore, List.append_assoc, hinside]
        exact skipSpace_cons (by decide) _
  cases h with
  | last h => exact hmember rest h
  | more h _ =>
      rw [List.append_assoc]
      exact hmember _ h

/-- The step for values: a list or an object is read with one unit of fuel less. -/
theorem readsValues_succ {fuel : Nat} (hitems : ReadsItems fuel)
    (hmembers : ReadsMembers fuel) : ReadsValues (fuel + 1) := by
  intro cs rest v h hfuel hrest
  cases h with
  | null => rfl
  | affirmed => rfl
  | denied => rfl
  | number h =>
      obtain ⟨c, more, rfl, hc⟩ := id h.exists_cons
      rw [List.cons_append, value?_number hc, ← List.cons_append, number?_append h hrest]
  | string h =>
      obtain ⟨inside, hinside, hread⟩ := string?_quoted h rest
      rw [hinside, value?, skipSpace_cons (by decide)]
      simp only [hread, Option.map_some]
  | @emptyArray w hw =>
      rw [List.cons_append, List.append_assoc, value?, skipSpace_cons (by decide)]
      simp only [skipSpace_append hw]
      rfl
  | @array cs vs h =>
      obtain ⟨c, more, hskip, hc⟩ := h.skipSpace_append (']' :: rest)
      have hlength : cs.length < fuel := by simp at hfuel; omega
      have hread := @hitems cs rest vs h hlength
      rw [← items?_skipSpace, hskip] at hread
      rw [List.cons_append, List.append_assoc, value?, skipSpace_cons (by decide)]
      simp only [List.cons_append, List.nil_append, hskip]
      split
      -- a list with items does not begin like the empty one
      · next hclose => exact absurd (List.cons.inj hclose).1 hc
      · rw [hread]
        rfl
  | @emptyObject w hw =>
      rw [List.cons_append, List.append_assoc, value?, skipSpace_cons (by decide)]
      simp only [skipSpace_append hw]
      rfl
  | @object cs ms h =>
      obtain ⟨more, hskip⟩ := h.skipSpace_append ('\x7d' :: rest)
      have hlength : cs.length < fuel := by simp at hfuel; omega
      have hread := @hmembers cs rest ms h hlength
      rw [← members?_skipSpace, hskip] at hread
      rw [List.cons_append, List.append_assoc, value?, skipSpace_cons (by decide)]
      simp only [List.cons_append, List.nil_append, hskip]
      change (members? fuel ('"' :: more)).map _ = _
      rw [hread]
      rfl

/-- **Reading.**  Each text of a value, of items or of members is read when the fuel
is not less than its length.  The induction is on the fuel, which every call passes
on reduced by one. -/
theorem reads (fuel : Nat) : ReadsValues fuel ∧ ReadsItems fuel ∧ ReadsMembers fuel := by
  induction fuel with
  | zero =>
      refine ⟨?_, fun _ hfuel => absurd hfuel (Nat.not_lt_zero _),
        fun _ hfuel => absurd hfuel (Nat.not_lt_zero _)⟩
      intro cs rest v h hfuel
      obtain ⟨c, more, rfl, -⟩ := h.exists_cons
      simp at hfuel
  | succ fuel ih =>
      obtain ⟨hvalues, hitems, hmembers⟩ := ih
      exact ⟨readsValues_succ hitems hmembers, readsItems_succ hvalues hitems,
        readsMembers_succ hvalues hmembers⟩

/-- **The reader and the grammar.**  What the grammar derives is read as what it
denotes. -/
theorem parse_of_denotes {text : String} {v : Json} (h : Denotes text v) :
    parse text = some v := by
  obtain ⟨after, hread, hafter⟩ :=
    ReadsValues.element (reads (text.toList.length + 1)).1 h (Nat.le_succ _) ends_nil
  rw [List.append_nil] at hread
  rw [parse, hread]
  simp only [hafter]
  rfl

/-- A text denotes one value at most. -/
theorem Denotes.unique {text : String} {v w : Json} (hv : Denotes text v)
    (hw : Denotes text w) : v = w :=
  Option.some.inj ((parse_of_denotes hv).symm.trans (parse_of_denotes hw))

end BookCensus.Json
