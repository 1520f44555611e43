import BookCensus.Proofs.QuoteBlind

/-!
# The readers of tokens

The readers of escapes, names, numbers and addresses look at the classes of the
characters ahead of them and no further.  Each is the readers of its parts put
together: it takes the character in front where a test allows it (`onFront`), or leaves
the text to the next rule.  So all of them are blind to the quotation marks behind what
they take.

* `nameFrom_succ`, `numeric_eq`, `urlFrom_succ`, `identLike_eq`, `one_eq` — the readers
  as they are put together;
* `quoteBlind_readOne` — the reader of a token that is not a string is blind.
-/

namespace BookCensus.Css

open Text

/-! ## Escapes and names -/

/-- A line end is told by its first two characters. -/
theorem dropNewline_cons (c : Char) (rest : List Char) :
    dropNewline (c :: rest) =
      if c = '\r' ∧ rest.head? = some '\n' then rest.tail
      else if isNewline c then rest else c :: rest := by
  rw [dropNewline.eq_def]
  split
  · next heq =>
      obtain ⟨rfl, rfl⟩ := List.cons.inj heq
      rfl
  · next hcrlf heq =>
      obtain ⟨rfl, rfl⟩ := List.cons.inj heq
      have hnot : ¬ (c = '\r' ∧ rest.head? = some '\n') := by
        rintro ⟨rfl, hhead⟩
        obtain ⟨more, rfl⟩ := List.head?_eq_some_iff.mp hhead
        exact hcrlf more rfl rfl
      rw [if_neg hnot]
  · next heq => nomatch heq

/-- Nothing but line ends is dropped. -/
theorem exists_append_dropNewline (cs : List Char) :
    ∃ taken, taken ++ dropNewline cs = cs ∧ ∀ d ∈ taken, isSpaceChar d = true := by
  cases cs with
  | nil => exact ⟨[], rfl, fun _ h => nomatch h⟩
  | cons c rest =>
      rw [dropNewline_cons]
      split
      · next hcrlf =>
          obtain ⟨rfl, hhead⟩ := hcrlf
          obtain ⟨more, rfl⟩ := List.head?_eq_some_iff.mp hhead
          refine ⟨['\r', '\n'], rfl, fun d hd => ?_⟩
          rcases List.mem_pair.mp hd with rfl | rfl <;> rfl
      split
      · next hc => exact ⟨[c], rfl, by simp [isSpaceChar, hc]⟩
      · exact ⟨[], rfl, fun _ h => nomatch h⟩

/-- No quotation mark is part of a line end. -/
theorem dropNewline_requote (cs : List Char) :
    dropNewline (requote cs) = requote (dropNewline cs) := by
  cases cs with
  | nil => rfl
  | cons c rest =>
      have hhead : (requote rest).head? = some '\n' ↔ rest.head? = some '\n' := by
        cases rest with
        | nil => rfl
        | cons d more =>
            rw [requote_cons, List.head?_cons, List.head?_cons, Option.some.injEq,
              Option.some.injEq, requoteChar_eq_iff (by decide) (by decide)]
      simp only [requote_cons, dropNewline_cons, hhead, tail_requote,
        class_requoteChar (p := isNewline) rfl,
        requoteChar_eq_iff (d := '\r') (by decide) (by decide)]
      split
      · rfl
      split <;> rfl

/-- What is left behind the digits of an escape: one space does not count. -/
def dropOneSpace (cs : List Char) : List Char :=
  match cs with
  | d :: more => if d == ' ' || d == '\t' then more else dropNewline cs
  | [] => []

/-- Nothing but spaces is dropped behind an escape. -/
theorem exists_append_dropOneSpace (cs : List Char) :
    ∃ taken, taken ++ dropOneSpace cs = cs ∧ ∀ d ∈ taken, isSpaceChar d = true := by
  cases cs with
  | nil => exact ⟨[], rfl, fun _ h => nomatch h⟩
  | cons d more =>
      rw [dropOneSpace]
      split
      · next hd =>
          have hspace : isSpaceChar d = true := by rw [isSpaceChar, hd, Bool.true_or]
          exact ⟨[d], rfl, by simpa using hspace⟩
      · exact exists_append_dropNewline (d :: more)

/-- No quotation mark is dropped behind an escape. -/
theorem dropOneSpace_requote (cs : List Char) :
    dropOneSpace (requote cs) = requote (dropOneSpace cs) := by
  cases cs with
  | nil => rfl
  | cons d more =>
      have hblank := class_requoteChar (p := fun d => d == ' ' || d == '\t') rfl d
      rw [requote_cons, dropOneSpace, dropOneSpace, hblank]
      split
      · rfl
      · exact dropNewline_requote (d :: more)

/-- The digits of an escape, from the first on. -/
def escapeDigits (cs : List Char) : List Char :=
  (cs.take 6).takeWhile isHexDigit

/-- An escape that begins with a digit is the character with that number. -/
theorem escape_digits {c : Char} (hc : isHexDigit c = true) (rest : List Char) :
    escape (c :: rest) =
      (if hexadecimalValue (escapeDigits (c :: rest)) == 0 then replacement
        else (charOfCode? (hexadecimalValue (escapeDigits (c :: rest)))).getD replacement,
      dropOneSpace ((c :: rest).drop (escapeDigits (c :: rest)).length)) := by
  rw [escape, if_pos hc]
  rfl

/-- Any other escape is the character behind the backslash. -/
theorem escape_other {c : Char} (hc : ¬ isHexDigit c = true) (rest : List Char) :
    escape (c :: rest) = (if c == '\x00' then replacement else c, rest) := by
  rw [escape, if_neg hc]
  split <;> rfl

/-- Behind its first character an escape takes digits and spaces. -/
theorem exists_append_escape (c : Char) (rest : List Char) :
    ∃ taken, taken ++ (escape (c :: rest)).2 = rest ∧
      ∀ d ∈ taken, isHexDigit d = true ∨ isSpaceChar d = true := by
  by_cases hc : isHexDigit c = true
  · have hdigits : escapeDigits (c :: rest) = c :: (rest.take 5).takeWhile isHexDigit := by
      rw [escapeDigits, List.take_succ_cons, List.takeWhile_cons_of_pos hc]
    have hfront : (rest.take 5).takeWhile isHexDigit <+: rest :=
      (List.takeWhile_prefix _).trans (List.take_prefix 5 rest)
    obtain ⟨spaces, hspaces, hspace⟩ :=
      exists_append_dropOneSpace (rest.drop ((rest.take 5).takeWhile isHexDigit).length)
    refine ⟨(rest.take 5).takeWhile isHexDigit ++ spaces, ?_, ?_⟩
    · rw [escape_digits hc, hdigits, List.length_cons, List.drop_succ_cons, List.append_assoc,
        hspaces]
      exact List.prefix_iff_eq_append.mp hfront
    · intro d hd
      rcases List.mem_append.mp hd with hd | hd
      · exact .inl (List.mem_takeWhile_imp hd)
      · exact .inr (hspace d hd)
  · rw [escape_other hc]
    exact ⟨[], rfl, fun _ h => nomatch h⟩

/-- An escape ends at the same place and is of the same character. -/
theorem escape_requote {c : Char} (hc : c ≠ '\'') (rest : List Char) :
    escape (c :: requote rest) =
      ((escape (c :: rest)).1, requote (escape (c :: rest)).2) := by
  have hrequote : c :: requote rest = requote (c :: rest) := (requote_cons_of_ne hc rest).symm
  by_cases hhex : isHexDigit c = true
  · have hdigits : escapeDigits (c :: requote rest) = escapeDigits (c :: rest) := by
      rw [hrequote, escapeDigits, requote, ← List.map_take]
      exact takeWhile_requote (by decide) (by decide) _
    rw [escape_digits hhex, escape_digits hhex, hdigits, hrequote, drop_requote,
      dropOneSpace_requote]
  · rw [escape_other hhex, escape_other hhex]

/-- An escape is read from the front. -/
theorem escape_suffix (cs : List Char) : (escape cs).2 <:+ cs := by
  cases cs with
  | nil => exact List.suffix_rfl
  | cons c rest =>
      obtain ⟨taken, htaken, -⟩ := exists_append_escape c rest
      have hsuffix : (escape (c :: rest)).2 <:+ rest := ⟨taken, htaken⟩
      exact hsuffix.trans (List.suffix_cons c rest)

/-- The first reader that is blind; all that read escapes are built on it. -/
theorem quoteBlind_escape : QuoteBlind escape := by
  refine ⟨escape_suffix, fun cs hspares => ?_⟩
  cases cs with
  | nil => rfl
  | cons c rest =>
      obtain ⟨taken, htaken, -⟩ := exists_append_escape c rest
      obtain ⟨hc, -⟩ := hspares.cons ⟨taken, htaken⟩
      rw [requote_cons_of_ne hc, escape_requote hc]

/-- Whether a text starts with an escape. -/
def atEscape (cs : List Char) : Bool :=
  headIs (· == '\\') cs && !headIs isNewline cs.tail

/-- Neither mark begins an escape, and neither is a line end. -/
theorem atEscape_requote (cs : List Char) : atEscape (requote cs) = atEscape cs := by
  rw [atEscape, headIs_requote rfl, tail_requote, headIs_requote rfl, atEscape]

/-- A name goes on with an escape, with a zero or with a character for names, or ends. -/
theorem nameFrom_succ (fuel : Nat) (done : List Char) :
    nameFrom (fuel + 1) done =
      onFront atEscape (fun _ rest => nameFrom fuel ((escape rest).1 :: done) (escape rest).2)
        (onFront (headIs (· == '\x00')) (fun _ rest => nameFrom fuel (replacement :: done) rest)
          (onFront (headIs insideName) (fun c rest => nameFrom fuel (c :: done) rest)
            fun cs => (done.reverse, cs))) := by
  funext cs
  rcases cs with _ | ⟨c, rest⟩
  · rfl
  by_cases hc : c = '\\'
  · subst hc
    have hinside : insideName '\\' = false := by decide
    by_cases hnewline : rest.head?.any isNewline = true
    · simp [nameFrom, onFront, atEscape, headIs, hnewline, hinside]
    · simp [nameFrom, onFront, atEscape, headIs, hnewline]
  · simp [nameFrom, onFront, atEscape, headIs, hc]
    rfl

/-- No character of a name is a quotation mark, but an escape in it may be of one. -/
theorem quoteBlind_nameFrom (fuel : Nat) (done : List Char) : QuoteBlind (nameFrom fuel done) := by
  induction fuel generalizing done with
  | zero => exact .pure done.reverse
  | succ fuel ih =>
      rw [nameFrom_succ]
      refine .onFront atEscape_requote (fun _ => ?_) ?_
      · exact quoteBlind_escape.bind fun c => ih (c :: done)
      refine .onFront (headIs_requote rfl) (fun _ => ih _) ?_
      exact .onFront (headIs_requote rfl) (fun c => ih (c :: done)) (.pure done.reverse)

/-- Names are read with as much fuel as the text is long. -/
theorem quoteBlind_name : QuoteBlind name :=
  (QuoteBlind.ofLength (· + 1) fun fuel => quoteBlind_nameFrom fuel []).map String.ofList

/-- Whether a text starts with a name can be told from its first two characters. -/
theorem atName_cons (c : Char) (rest : List Char) :
    atName (c :: rest) =
      if c = '-' then headIs (fun d => startsName d || d == '-' || d == '\\') rest
      else if c = '\\' then !headIs isNewline rest
      else startsName c := by
  by_cases hhyphen : c = '-'
  · subst hhyphen
    cases rest <;> rfl
  rw [if_neg hhyphen]
  by_cases hbackslash : c = '\\'
  · subst hbackslash
    cases rest <;> rfl
  · rw [if_neg hbackslash]
    cases rest <;> simp [atName, hhyphen, hbackslash]

/-- Neither mark can begin a name. -/
theorem atName_requote (cs : List Char) : atName (requote cs) = atName cs := by
  cases cs with
  | nil => rfl
  | cons c rest =>
      rw [requote_cons, atName_cons, atName_cons, headIs_requote rfl, headIs_requote rfl,
        class_requoteChar (p := startsName) rfl]
      simp only [requoteChar_eq_iff (d := '-') (by decide) (by decide),
        requoteChar_eq_iff (d := '\\') (by decide) (by decide)]

/-! ## Numbers -/

/-- Whether a text starts with a number without sign. -/
def atUnsigned (cs : List Char) : Bool :=
  headIs isDigit cs || headsAre (· == '.') isDigit cs

/-- Neither mark can begin a number. -/
theorem atUnsigned_requote (cs : List Char) : atUnsigned (requote cs) = atUnsigned cs := by
  rw [atUnsigned, headIs_requote rfl, headsAre_requote rfl rfl, atUnsigned]

/-- Whether a text starts with a number can be told without its sign. -/
theorem atNumber_cons (c : Char) (rest : List Char) :
    atNumber (c :: rest) =
      if c == '+' || c == '-' then atUnsigned rest else atUnsigned (c :: rest) := by
  have hpoint : isDigit '.' = false := by decide
  by_cases hsign : c = '+' ∨ c = '-'
  · rcases rest with _ | ⟨d, _ | ⟨e, more⟩⟩
    · simp [atNumber, atUnsigned, headIs, headsAre, hsign]
    · by_cases hd : d = '.' <;>
        simp [atNumber, atUnsigned, headIs, headsAre, hsign, hd, hpoint]
    · by_cases hd : d = '.' <;>
        simp [atNumber, atUnsigned, headIs, headsAre, hsign, hd, hpoint]
  · by_cases hc : c = '.'
    · rcases rest with _ | ⟨d, more⟩ <;>
        simp [atNumber, atUnsigned, headIs, headsAre, hc, hpoint]
    · simp [atNumber, atUnsigned, headIs, headsAre, hsign, hc]

/-- Nor can it behind a sign. -/
theorem atNumber_requote (cs : List Char) : atNumber (requote cs) = atNumber cs := by
  cases cs with
  | nil => rfl
  | cons c rest =>
      have hsign := class_requoteChar (p := fun c => c == '+' || c == '-') rfl c
      have hunsigned := atUnsigned_requote (c :: rest)
      rw [requote_cons] at hunsigned ⊢
      rw [atNumber_cons, atNumber_cons, atUnsigned_requote, hunsigned, hsign]

/-- The sign at the front of a number: whether there is one, and whether it is a minus. -/
def readSign : List Char → (Bool × Bool) × List Char :=
  onFront (headIs fun c => c == '+' || c == '-') (fun c rest => ((true, c == '-'), rest))
    fun cs => ((false, false), cs)

/-- Neither mark is a sign. -/
theorem quoteBlind_readSign : QuoteBlind readSign :=
  .onFront (headIs_requote rfl) (fun c => .pure (true, c == '-')) (.pure (false, false))

/-- The digits at the front of a text. -/
def readDigits (cs : List Char) : List Char × List Char :=
  (cs.takeWhile isDigit, cs.dropWhile isDigit)

/-- Neither mark is a digit. -/
theorem quoteBlind_readDigits : QuoteBlind readDigits := by
  refine ⟨fun cs => List.dropWhile_suffix _, fun cs _ => ?_⟩
  rw [readDigits, takeWhile_requote rfl rfl, dropWhile_requote rfl]
  rfl

/-- A fraction is a point with a digit behind it, and more digits. -/
theorem dropFraction_eq :
    dropFraction = onFront (headsAre (· == '.') isDigit)
      (fun _ rest => (true, rest.dropWhile isDigit)) fun cs => (false, cs) := by
  funext cs
  rcases cs with _ | ⟨c, _ | ⟨d, rest⟩⟩
  · rfl
  · by_cases hc : c = '.' <;> simp [dropFraction, onFront, headsAre, headIs]
  · by_cases hc : c = '.'
    · by_cases hd : isDigit d = true <;> simp [dropFraction, onFront, headsAre, headIs, hc, hd]
    · simp [dropFraction, onFront, headsAre, headIs, hc]

/-- So it ends at a mark, whichever that is. -/
theorem quoteBlind_dropFraction : QuoteBlind dropFraction := by
  rw [dropFraction_eq]
  exact .onFront (headsAre_requote rfl rfl) (fun _ => .dropWhile rfl true) (.pure false)

/-- An exponent is its letter with digits behind it, perhaps after a sign. -/
theorem dropExponent_eq :
    dropExponent = onFront (headsAre (fun e => e == 'e' || e == 'E') isDigit)
      (fun _ rest => (true, rest.dropWhile isDigit))
      (onFront (fun cs => headIs (fun e => e == 'e' || e == 'E') cs &&
          headsAre (fun s => s == '+' || s == '-') isDigit cs.tail)
        (fun _ rest => (true, rest.tail.dropWhile isDigit)) fun cs => (false, cs)) := by
  funext cs
  rcases cs with _ | ⟨e, _ | ⟨s, _ | ⟨d, rest⟩⟩⟩
  · rfl
  · simp [dropExponent, onFront, headsAre, headIs]
  · by_cases hs : isDigit s = true <;> simp [dropExponent, onFront, headsAre, headIs, hs]
  · by_cases he : e = 'e' ∨ e = 'E'
    · by_cases hs : isDigit s = true
      · simp [dropExponent, onFront, headsAre, headIs, he, hs]
      · by_cases hd : isDigit d = true <;>
          simp [dropExponent, onFront, headsAre, headIs, he, hs, hd]
    · simp [dropExponent, onFront, headsAre, headIs, he]

/-- It ends at a mark as well. -/
theorem quoteBlind_dropExponent : QuoteBlind dropExponent := by
  have hpower : ∀ cs : List Char, (headIs (fun e => e == 'e' || e == 'E') (requote cs) &&
      headsAre (fun s => s == '+' || s == '-') isDigit (requote cs).tail)
        = (headIs (fun e => e == 'e' || e == 'E') cs &&
          headsAre (fun s => s == '+' || s == '-') isDigit cs.tail) := by
    intro cs
    rw [headIs_requote rfl, tail_requote, headsAre_requote rfl rfl]
  rw [dropExponent_eq]
  refine .onFront (headsAre_requote rfl rfl) (fun _ => .dropWhile rfl true) ?_
  refine .onFront hpower (fun _ => ?_) (.pure false)
  exact (QuoteBlind.tail ()).bind fun _ => .dropWhile rfl true

/-- What stands behind a number: the sign per cent, a unit, or neither. -/
def readUnit (value : Numeral) : List Char → Token × List Char :=
  onFront (headIs (· == '%')) (fun _ rest => (.percentage, rest)) fun cs =>
    if atName cs then (.dimension value (name cs).1, (name cs).2) else (.number value, cs)

/-- What follows a number is a sign per cent, a name or nothing. -/
theorem quoteBlind_readUnit (value : Numeral) : QuoteBlind (readUnit value) := by
  refine .onFront (headIs_requote rfl) (fun _ => .pure Token.percentage) ?_
  exact .ite atName_requote (quoteBlind_name.map (Token.dimension value))
    (.pure (Token.number value))

/-- The value of a number from its parts. -/
def numeralOf (sign : Bool × Bool) (digits : List Char) (broken scaled : Bool) : Numeral :=
  let n : Int := decimalValue digits
  ⟨if broken || scaled then none else some (clampWhole (if sign.2 then -n else n)), sign.1⟩

/-- The parts of a number are read one after the other. -/
theorem numeric_eq (cs : List Char) :
    numeric cs =
      let sign := readSign cs
      let digits := readDigits sign.2
      let fraction := dropFraction digits.2
      let power := dropExponent fraction.2
      readUnit (numeralOf sign.1 digits.1 fraction.1 power.1) power.2 := by
  have hsplit : (∃ rest, cs = '+' :: rest ∧ readSign cs = ((true, false), rest)) ∨
      (∃ rest, cs = '-' :: rest ∧ readSign cs = ((true, true), rest)) ∨
      (∀ rest, cs ≠ '+' :: rest) ∧ (∀ rest, cs ≠ '-' :: rest) ∧
        readSign cs = ((false, false), cs) := by
    rcases cs with _ | ⟨c, rest⟩
    · exact .inr (.inr ⟨fun _ => by simp, fun _ => by simp, rfl⟩)
    by_cases hplus : c = '+'
    · exact .inl ⟨rest, by rw [hplus], by rw [hplus]; rfl⟩
    by_cases hminus : c = '-'
    · exact .inr (.inl ⟨rest, by rw [hminus], by rw [hminus]; rfl⟩)
    · refine .inr (.inr ⟨?_, ?_, ?_⟩)
      · exact fun _ h => hplus (List.cons.inj h).1
      · exact fun _ h => hminus (List.cons.inj h).1
      · simp [readSign, onFront, headIs, hplus, hminus]
  -- Behind the sign all numbers are read alike, so it remains to compare the units.
  rcases hsplit with ⟨rest, rfl, hread⟩ | ⟨rest, rfl, hread⟩ | ⟨hplus, hminus, hread⟩
  all_goals
    simp only [numeric, readDigits, *]
    generalize dropExponent _ = power
    obtain ⟨scaled, _ | ⟨d, more⟩⟩ := power
    · rfl
    · by_cases hd : d = '%' <;> simp [numeralOf, readUnit, onFront, headIs, hd]

/-- A number with its unit: sign, digits, fraction, exponent and unit one after the other. -/
theorem quoteBlind_numeric : QuoteBlind numeric := by
  rw [funext numeric_eq]
  exact quoteBlind_readSign.bind fun sign => quoteBlind_readDigits.bind fun digits =>
    quoteBlind_dropFraction.bind fun broken => quoteBlind_dropExponent.bind fun scaled =>
      quoteBlind_readUnit (numeralOf sign digits broken scaled)

/-! ## Addresses -/

/-- A bad address runs on to a closing parenthesis that no backslash stands before. -/
theorem badUrlFrom_succ (fuel : Nat) :
    (fun cs => (Token.badUrl, badUrlFrom (fuel + 1) cs)) =
      onFront (headIs (· == ')')) (fun _ rest => (.badUrl, rest))
        (onFront (headsAre (· == '\\') fun c => c == ')' || c == '\\')
          (fun _ rest => (.badUrl, badUrlFrom fuel rest.tail))
          (onFront (fun _ => true) (fun _ rest => (.badUrl, badUrlFrom fuel rest))
            fun cs => (.badUrl, cs))) := by
  funext cs
  rcases cs with _ | ⟨c, rest⟩
  · rfl
  by_cases hclose : c = ')'
  · subst hclose
    rfl
  by_cases hbackslash : c = '\\'
  · subst hbackslash
    rcases rest with _ | ⟨d, more⟩
    · rfl
    · by_cases hd : d = ')'
      · subst hd
        rfl
      by_cases hd' : d = '\\'
      · subst hd'
        rfl
      · simp [badUrlFrom, onFront, headIs, headsAre, hd, hd']
  · simp [badUrlFrom, onFront, headIs, headsAre, hclose, hbackslash]

/-- Neither mark ends a bad address. -/
theorem quoteBlind_badUrlFrom (fuel : Nat) :
    QuoteBlind fun cs => (Token.badUrl, badUrlFrom fuel cs) := by
  induction fuel with
  | zero => exact .pure Token.badUrl
  | succ fuel ih =>
      rw [badUrlFrom_succ]
      refine .onFront (headIs_requote rfl) (fun _ => .pure Token.badUrl) ?_
      refine .onFront (headsAre_requote rfl rfl) (fun _ => (QuoteBlind.tail ()).bind fun _ => ih) ?_
      exact .onFront (fun _ => rfl) (fun _ => ih) (.pure Token.badUrl)

/-- What follows the spaces in an address: its end, or something that spoils it. -/
def readUrlEnd (fuel : Nat) : List Char → Token × List Char :=
  onFront (headIs (· == ')')) (fun _ rest => (.url, rest))
    (onFront (fun _ => true) (fun _ rest => (.badUrl, badUrlFrom fuel rest)) fun cs => (.url, cs))

/-- An address goes on with any character that does not end it or spoil it. -/
theorem urlFrom_succ (fuel : Nat) :
    urlFrom (fuel + 1) =
      onFront (headIs (· == ')')) (fun _ rest => (.url, rest))
        (onFront atEscape (fun _ rest => urlFrom fuel (escape rest).2)
          (onFront (headIs (· == '\\')) (fun _ rest => (.badUrl, badUrlFrom fuel rest))
            (onFront (headIs isSpaceChar)
              (fun _ rest => readUrlEnd fuel (rest.dropWhile isSpaceChar))
              (onFront (headIs spoilsUrl) (fun _ rest => (.badUrl, badUrlFrom fuel rest))
                (onFront (fun _ => true) (fun _ rest => urlFrom fuel rest)
                  fun cs => (.url, cs)))))) := by
  funext cs
  rcases cs with _ | ⟨c, rest⟩
  · rfl
  by_cases hclose : c = ')'
  · subst hclose
    rfl
  by_cases hbackslash : c = '\\'
  · subst hbackslash
    by_cases hnewline : rest.head?.any isNewline = true <;>
      simp [urlFrom, onFront, headIs, atEscape, hnewline]
  cases hdrop : rest.dropWhile isSpaceChar with
  | nil => simp [urlFrom, readUrlEnd, onFront, headIs, atEscape, hclose, hbackslash, hdrop]
  | cons d more =>
      by_cases hd : d = ')' <;>
        simp [urlFrom, readUrlEnd, onFront, headIs, atEscape, hclose, hbackslash, hdrop, hd]

/-- Either mark spoils an address, so it makes no difference which. -/
theorem quoteBlind_urlFrom (fuel : Nat) : QuoteBlind (urlFrom fuel) := by
  induction fuel with
  | zero => exact .pure Token.url
  | succ fuel ih =>
      have hend : QuoteBlind (readUrlEnd fuel) :=
        .onFront (headIs_requote rfl) (fun _ => .pure Token.url)
          (.onFront (fun _ => rfl) (fun _ => quoteBlind_badUrlFrom fuel) (.pure Token.url))
      rw [urlFrom_succ]
      refine .onFront (headIs_requote rfl) (fun _ => .pure Token.url) ?_
      refine .onFront atEscape_requote (fun _ => quoteBlind_escape.bind fun _ => ih) ?_
      refine .onFront (headIs_requote rfl) (fun _ => quoteBlind_badUrlFrom fuel) ?_
      refine .onFront (headIs_requote rfl) (fun _ => ?_) ?_
      · exact (QuoteBlind.dropWhile rfl ()).bind fun _ => hend
      refine .onFront (headIs_requote rfl) (fun _ => quoteBlind_badUrlFrom fuel) ?_
      exact .onFront (fun _ => rfl) (fun _ => ih) (.pure Token.url)

/-- What stands behind the parenthesis that makes an address of a name: a quotation
mark, or the address. -/
def readAddress (word : String) : List Char → Token × List Char := fun cs =>
  if headIs (fun c => c == '"' || c == '\'') (cs.dropWhile isSpaceChar) then (.function word, cs)
  else urlFrom ((cs.dropWhile isSpaceChar).length + 1) (cs.dropWhile isSpaceChar)

/-- Whether an address or a function is read is decided by whether a mark follows, not by which.
-/
theorem quoteBlind_readAddress (word : String) : QuoteBlind (readAddress word) := by
  have hmark : ∀ cs : List Char,
      headIs (fun c => c == '"' || c == '\'') ((requote cs).dropWhile isSpaceChar)
        = headIs (fun c => c == '"' || c == '\'') (cs.dropWhile isSpaceChar) := by
    intro cs
    rw [dropWhile_requote rfl, headIs_requote rfl]
  refine .ite hmark (.pure (Token.function word)) ?_
  exact (QuoteBlind.dropWhile rfl ()).bind fun _ =>
    .ofLength (· + 1) fun fuel => quoteBlind_urlFrom fuel

/-- What a name makes together with what stands behind it. -/
def afterName (word : String) : List Char → Token × List Char :=
  onFront (headIs (· == '('))
    (fun _ rest =>
      if sameIgnoringCase word "url" then readAddress word rest else (.function word, rest))
    fun cs => (.ident word, cs)

/-- A name and what it makes with a parenthesis are read one after the other. -/
theorem identLike_eq (cs : List Char) : identLike cs = afterName (name cs).1 (name cs).2 := by
  rw [identLike]
  generalize name cs = read
  obtain ⟨word, _ | ⟨c, rest⟩⟩ := read
  · rfl
  by_cases hc : c = '('
  · subst hc
    cases hdrop : rest.dropWhile isSpaceChar with
    | nil => simp [afterName, readAddress, onFront, headIs, hdrop]
    | cons d more =>
        by_cases hdouble : d = '"'
        · simp [afterName, readAddress, onFront, headIs, hdrop, hdouble]
        · by_cases hsingle : d = '\'' <;>
            simp [afterName, readAddress, onFront, headIs, hdrop, hdouble, hsingle]
  · simp [afterName, onFront, headIs, hc]

/-- A parenthesis behind a name is none of the marks. -/
theorem quoteBlind_afterName (word : String) : QuoteBlind (afterName word) := by
  refine .onFront (headIs_requote rfl) (fun _ => ?_) (.pure (Token.ident word))
  exact .ite (fun _ => rfl) (quoteBlind_readAddress word) (.pure (Token.function word))

/-- So a name with what it makes is read blindly. -/
theorem quoteBlind_identLike : QuoteBlind identLike := by
  rw [funext identLike_eq]
  exact quoteBlind_name.bind quoteBlind_afterName

/-! ## Tokens -/

/-- A number takes the character that it starts with. -/
theorem numeric_suffix_of_atNumber {c : Char} {rest : List Char}
    (h : atNumber (c :: rest) = true) : (numeric (c :: rest)).2 <:+ rest := by
  rw [numeric_eq]
  refine ((quoteBlind_readUnit _).suffix _).trans ((quoteBlind_dropExponent.suffix _).trans ?_)
  by_cases hsign : (c == '+' || c == '-') = true
  · have hread : (readSign (c :: rest)).2 = rest := by simp [readSign, onFront, headIs, hsign]
    rw [hread]
    exact (quoteBlind_dropFraction.suffix _).trans (quoteBlind_readDigits.suffix rest)
  · have hread : (readSign (c :: rest)).2 = c :: rest := by
      simp [readSign, onFront, headIs, hsign]
    rw [atNumber_cons, if_neg hsign, atUnsigned, Bool.or_eq_true] at h
    rw [hread]
    by_cases hc : isDigit c = true
    · have hdigits : (readDigits (c :: rest)).2 = rest.dropWhile isDigit :=
        List.dropWhile_cons_of_pos hc
      rw [hdigits]
      exact (quoteBlind_dropFraction.suffix _).trans (List.dropWhile_suffix _)
    · have hdigits : (readDigits (c :: rest)).2 = c :: rest := List.dropWhile_cons_of_neg hc
      have hpoint : headsAre (· == '.') isDigit (c :: rest) = true :=
        h.resolve_left (by simpa [headIs] using hc)
      rw [hdigits, dropFraction_eq, onFront, if_pos hpoint]
      exact List.dropWhile_suffix _

/-- A name takes the character that it starts with. -/
theorem name_suffix_of_atName {c : Char} {rest : List Char} (h : atName (c :: rest) = true) :
    (name (c :: rest)).2 <:+ rest := by
  have hstart : atEscape (c :: rest) = true ∨ headIs insideName (c :: rest) = true := by
    rw [atName_cons] at h
    split at h
    · next hc => exact .inr (hc ▸ rfl)
    split at h
    · next hc => exact .inl (by simpa [atEscape, headIs, hc] using h)
    · exact .inr (by simp [headIs, insideName, h])
  have hnext : ∀ done, (nameFrom (rest.length + 1) done rest).2 <:+ rest :=
    fun done => (quoteBlind_nameFrom _ done).suffix rest
  change (nameFrom (rest.length + 1 + 1) [] (c :: rest)).2 <:+ rest
  rw [nameFrom_succ, onFront]
  split
  · exact ((quoteBlind_nameFrom _ _).suffix _).trans (escape_suffix rest)
  · next hescape =>
      rw [onFront]
      split
      · exact hnext _
      · rw [onFront, if_pos (hstart.resolve_left hescape)]
        exact hnext _

/-- Where a name begins, at least one character of it is read. -/
theorem identLike_suffix_of_atName {c : Char} {rest : List Char}
    (h : atName (c :: rest) = true) : (identLike (c :: rest)).2 <:+ rest := by
  rw [identLike_eq]
  exact ((quoteBlind_afterName _).suffix _).trans (name_suffix_of_atName h)

/-- A reader that is also given the character in front, which it takes. -/
theorem QuoteBlind.behind {α : Type} {test : List Char → Bool}
    {read other : List Char → α × List Char} {c : Char}
    (htest : ∀ cs, test (Text.requote cs) = test cs) (hc : c ≠ '\'') (h : QuoteBlind read)
    (hfront : ∀ rest, test (c :: rest) = true → (read (c :: rest)).2 <:+ rest)
    (hother : QuoteBlind other) :
    QuoteBlind fun rest => if test (c :: rest) then read (c :: rest) else other rest := by
  refine ⟨fun rest => ?_, fun rest hspares => ?_⟩
  · split
    · next htaken => exact hfront rest htaken
    · exact hother.suffix rest
  · have hrequote := htest (c :: rest)
    rw [requote_cons_of_ne hc] at hrequote
    by_cases htaken : test (c :: rest) = true
    · simp only [hrequote, if_pos htaken] at hspares ⊢
      obtain ⟨piece, hpiece, hquote⟩ := hspares
      have hread := h.requote (c :: rest)
        ⟨c :: piece, congrArg (c :: ·) hpiece, by simp [hquote, Ne.symm hc]⟩
      rwa [requote_cons_of_ne hc] at hread
    · simp only [hrequote, if_neg htaken] at hspares ⊢
      exact hother.requote rest hspares

/-- The tokens of a single character. -/
def punctuation? : Char → Option Token
  | '(' => some (.opening .round)
  | ')' => some (.closing .round)
  | '[' => some (.opening .square)
  | ']' => some (.closing .square)
  | '\x7b' => some (.opening .curly)
  | '\x7d' => some (.closing .curly)
  | ',' => some .comma
  | ':' => some .colon
  | ';' => some .semicolon
  | _ => none

/-- The comparison that a character makes with an equals sign. -/
def signOf? : Char → Option MatchSign
  | '$' => some .ends
  | '*' => some .within
  | '^' => some .starts
  | '|' => some .dash
  | '~' => some .includes
  | _ => none

/-- A number, the end of a comment of markup, something with a name, or the character
alone. -/
def readPlain (c : Char) (rest : List Char) : Token × List Char :=
  if atNumber (c :: rest) then numeric (c :: rest)
  else if c == '-' && headsAre (· == '-') (· == '>') rest then (.commentClose, rest.tail.tail)
  else if atName (c :: rest) then identLike (c :: rest)
  else (.delim c, rest)

/-- The token that starts with a character other than a quotation mark. -/
def readOne (c : Char) : List Char → Token × List Char :=
  match punctuation? c, signOf? c with
  | some t, _ => fun rest => (t, rest)
  | none, some sign => onFront (headIs (· == '=')) (fun _ rest => (.sign sign, rest)) (readPlain c)
  | none, none =>
      if c = '#' then fun rest =>
        if atName rest then (.idHash (name rest).1, (name rest).2)
        else if headIs (fun d => isDigit d || d == '-') rest then
          (.hash (name rest).1, (name rest).2)
        else (.delim '#', rest)
      else if c = '@' then fun rest =>
        if atName rest then (.atKeyword (name rest).1, (name rest).2) else (.delim '@', rest)
      else if c = '<' then fun rest =>
        if headIs (· == '!') rest && headsAre (· == '-') (· == '-') rest.tail then
          (.commentOpen, rest.tail.tail.tail)
        else readPlain '<' rest
      else readPlain c

/-- A token that does not begin with a mark is no string. -/
theorem one_eq {c : Char} (hsingle : c ≠ '\'') (hdouble : c ≠ '"') (rest : List Char) :
    one c rest = readOne c rest := by
  by_cases hcomparison : c ∈ ['$', '*', '^', '|', '~']
  · simp only [List.mem_cons, List.not_mem_nil, or_false] at hcomparison
    rcases rest with _ | ⟨d, more⟩
    · rcases hcomparison with rfl | rfl | rfl | rfl | rfl <;> rfl
    by_cases hd : d = '='
    · subst hd
      rcases hcomparison with rfl | rfl | rfl | rfl | rfl <;> rfl
    · rcases hcomparison with rfl | rfl | rfl | rfl | rfl <;>
        simp [one, readOne, punctuation?, signOf?, onFront, headIs, hd, readPlain]
  by_cases hpunctuation : c ∈ ['(', ')', '[', ']', '\x7b', '\x7d', ',', ':', ';']
  · simp only [List.mem_cons, List.not_mem_nil, or_false] at hpunctuation
    rcases hpunctuation with rfl | rfl | rfl | rfl | rfl | rfl | rfl | rfl | rfl <;> rfl
  by_cases hhash : c = '#'
  · subst hhash
    rfl
  by_cases hat : c = '@'
  · subst hat
    rfl
  by_cases hless : c = '<'
  · subst hless
    rcases rest with _ | ⟨d, _ | ⟨e, _ | ⟨f, more⟩⟩⟩
    · rfl
    · simp [one, readOne, punctuation?, signOf?, headsAre, headIs, readPlain]
    · simp [one, readOne, punctuation?, signOf?, headsAre, headIs, readPlain]
    · by_cases hd : d = '!'
      · subst hd
        by_cases he : e = '-'
        · subst he
          by_cases hf : f = '-'
          · subst hf
            rfl
          · simp [one, readOne, punctuation?, signOf?, headsAre, headIs, readPlain, hf]
        · simp [one, readOne, punctuation?, signOf?, headsAre, headIs, readPlain, he]
      · simp [one, readOne, punctuation?, signOf?, headsAre, headIs, readPlain, hd]
  -- Of what is left only a hyphen may begin more than a number or a name.
  · simp only [List.mem_cons, List.not_mem_nil, or_false, not_or] at hcomparison hpunctuation
    by_cases hhyphen : c = '-'
    · subst hhyphen
      rcases rest with _ | ⟨d, _ | ⟨e, more⟩⟩
      · rfl
      · simp [one, readOne, readPlain, punctuation?, signOf?, headsAre, headIs]
      · by_cases hd : d = '-'
        · by_cases he : e = '>' <;>
            simp [one, readOne, readPlain, punctuation?, signOf?, headsAre, headIs, hd, he]
        · simp [one, readOne, readPlain, punctuation?, signOf?, headsAre, headIs, hd]
    · simp [one, readOne, readPlain, punctuation?, signOf?, hcomparison, hpunctuation, hhash, hat,
        hless, hhyphen]

/-- Names, numbers and characters that stand for themselves. -/
theorem quoteBlind_readPlain {c : Char} (hc : c ≠ '\'') : QuoteBlind (readPlain c) := by
  have hmarkup : ∀ rest : List Char,
      (c == '-' && headsAre (· == '-') (· == '>') (requote rest))
        = (c == '-' && headsAre (· == '-') (· == '>') rest) := by
    intro rest
    rw [headsAre_requote rfl rfl]
  refine .behind atNumber_requote hc quoteBlind_numeric
    (fun _ => numeric_suffix_of_atNumber) ?_
  refine .ite hmarkup ?_ ?_
  · exact (QuoteBlind.tail ()).bind fun _ => .tail Token.commentClose
  · exact .behind atName_requote hc quoteBlind_identLike (fun _ => identLike_suffix_of_atName)
      (.pure (Token.delim c))

/-- **Tokens that are no strings** are read blindly. -/
theorem quoteBlind_readOne {c : Char} (hc : c ≠ '\'') : QuoteBlind (readOne c) := by
  rw [readOne]
  split
  · exact .pure _
  · exact .onFront (headIs_requote rfl) (fun _ => .pure _) (quoteBlind_readPlain hc)
  split
  · refine .ite atName_requote (quoteBlind_name.map Token.idHash) ?_
    exact .ite (headIs_requote rfl) (quoteBlind_name.map Token.hash) (.pure (Token.delim '#'))
  split
  · exact .ite atName_requote (quoteBlind_name.map Token.atKeyword) (.pure (Token.delim '@'))
  split
  · have hmarkup : ∀ rest : List Char,
        (headIs (· == '!') (requote rest) && headsAre (· == '-') (· == '-') (requote rest).tail)
          = (headIs (· == '!') rest && headsAre (· == '-') (· == '-') rest.tail) := by
      intro rest
      rw [headIs_requote rfl, tail_requote, headsAre_requote rfl rfl]
    refine .ite hmarkup ?_ (quoteBlind_readPlain (by decide))
    exact (QuoteBlind.tail ()).bind fun _ => (QuoteBlind.tail ()).bind fun _ =>
      .tail Token.commentOpen
  · exact quoteBlind_readPlain hc

end BookCensus.Css
