import BookCensus.Proofs.TokenReaders

/-!
# Quotation marks in selectors

Which tokens of a text stay the same when it is sent with double quotes in place of its
single ones?  Those with no single quote in them, and strings between single quotes when
neither mark is inside.  Behind a backslash a double quote is inside such a string
without harm and a single one is not, since it stands for itself.  What is in a comment
does not matter.

* `lexemes` — the stretches into which a text falls, each with the token it makes:
  `flatMap_text_lexemes` and `filterMap_token_lexemes` say that they are the whole text
  and all of its tokens;
* `Lexeme.keepsQuotes` — the stretches that stay the same;
* `ofText_requote` — a text that has no others has the same tokens when it is sent.
-/

namespace BookCensus.Css

open Text

/-! ## Strings -/

/-- What stands behind the mark that opens a string, up to the mark that closes it:
neither mark, but for double ones behind a backslash. -/
def plainInside (quote : Char) : List Char → Bool
  | [] => true
  | [c] => c == quote || c != '\'' && c != '"'
  | '\\' :: c :: rest => c != '\'' && plainInside quote rest
  | c :: rest => c != '\'' && c != '"' && plainInside quote rest

/-- A character inside a string that is no backslash and does not end it is none of the marks. -/
theorem plainInside_cons {quote c : Char} {rest : List Char} (hbackslash : c ≠ '\\')
    (hc : c ≠ quote) (h : plainInside quote (c :: rest) = true) :
    c ≠ '\'' ∧ c ≠ '"' ∧ plainInside quote rest = true := by
  rcases rest with _ | ⟨d, more⟩
  · simpa [plainInside, hc] using h
  · simpa [plainInside, hbackslash, and_assoc] using h

/-- Behind a backslash a double quote may stand, and no single one. -/
theorem plainInside_escaped {quote c : Char} {rest : List Char}
    (h : plainInside quote ('\\' :: c :: rest) = true) :
    c ≠ '\'' ∧ plainInside quote rest = true := by
  simpa [plainInside] using h

/-- Digits and spaces may go. -/
theorem plainInside_append {quote : Char} (hquote : quote = '"' ∨ quote = '\'')
    {taken rest : List Char} (htaken : ∀ d ∈ taken, isHexDigit d = true ∨ isSpaceChar d = true)
    (h : plainInside quote (taken ++ rest) = true) : plainInside quote rest = true := by
  induction taken with
  | nil => exact h
  | cons d taken ih =>
      rw [List.forall_mem_cons] at htaken
      have hbackslash : d ≠ '\\' := by
        rintro rfl
        exact absurd htaken.1 (by decide)
      have hd : d ≠ quote := by
        rintro rfl
        rcases hquote with rfl | rfl
        · exact absurd htaken.1 (by decide)
        · exact absurd htaken.1 (by decide)
      exact ih htaken.2 (plainInside_cons hbackslash hd h).2.2

/-- All that a character inside a string can do. -/
theorem stringFrom_cons (quote : Char) (fuel : Nat) (done : List Char) (c : Char)
    (rest : List Char) :
    stringFrom quote (fuel + 1) done (c :: rest) =
      if c = '\\' then
        if rest = [] then (.string (String.ofList done.reverse), [])
        else if headIs isNewline rest then stringFrom quote fuel done (dropNewline rest)
        else stringFrom quote fuel ((escape rest).1 :: done) (escape rest).2
      else if c = quote then (.string (String.ofList done.reverse), rest)
      else if isNewline c then (.badString, c :: rest)
      else if c == '\x00' then stringFrom quote fuel (replacement :: done) rest
      else stringFrom quote fuel (c :: done) rest := by
  by_cases hc : c = '\\'
  · subst hc
    rcases rest with _ | ⟨d, more⟩
    · rfl
    · rw [if_pos rfl, if_neg (List.cons_ne_nil d more)]
      rfl
  · simp [stringFrom, hc]

/-- A string is read from the front. -/
theorem stringFrom_suffix (quote : Char) (fuel : Nat) (done cs : List Char) :
    (stringFrom quote fuel done cs).2 <:+ cs := by
  induction fuel generalizing done cs with
  | zero => exact List.suffix_rfl
  | succ fuel ih =>
      rcases cs with _ | ⟨c, rest⟩
      · exact List.suffix_rfl
      rw [stringFrom_cons]
      split
      · split
        · exact List.nil_suffix
        split
        · obtain ⟨taken, htaken, -⟩ := exists_append_dropNewline rest
          have hline : dropNewline rest <:+ rest := ⟨taken, htaken⟩
          exact ((ih _ _).trans hline).trans (List.suffix_cons c rest)
        · exact ((ih _ _).trans (escape_suffix rest)).trans (List.suffix_cons c rest)
      split
      · exact List.suffix_cons c rest
      split
      · exact List.suffix_rfl
      split
      · exact (ih _ rest).trans (List.suffix_cons c rest)
      · exact (ih _ rest).trans (List.suffix_cons c rest)

/-- Behind a backslash the string goes on in the next line. -/
theorem plainInside_continued {quote : Char} {piece : List Char}
    (hspace : ∀ d ∈ piece.head?, isSpaceChar d = true)
    (h : plainInside quote ('\\' :: piece) = true) : plainInside quote piece = true := by
  rcases piece with _ | ⟨d, more⟩
  · rfl
  have hd : isSpaceChar d = true := hspace d rfl
  have hclass : d ≠ '\\' ∧ d ≠ '\'' ∧ d ≠ '"' := by
    refine ⟨?_, ?_, ?_⟩ <;> rintro rfl <;> exact absurd hd (by decide)
  rcases more with _ | ⟨e, more⟩
  · simp [plainInside, hclass]
  · simpa [plainInside, hclass] using h

/-- What a piece of text consists of when it was read in two steps. -/
theorem exists_eq_append_of_suffix {piece next final : List Char} {c : Char}
    (taken : List Char) (hpiece : piece ++ final = c :: (taken ++ next)) (hnext : final <:+ next) :
    ∃ more, more ++ final = next ∧ piece = c :: (taken ++ more) := by
  obtain ⟨more, rfl⟩ := hnext
  refine ⟨more, rfl, List.append_cancel_right (hpiece.trans ?_)⟩
  rw [List.cons_append, List.append_assoc]

/-- A string with neither mark inside keeps its value between double quotes. -/
theorem stringFrom_requote {quote : Char} (hquote : quote = '"' ∨ quote = '\'') (fuel : Nat)
    (done : List Char) {piece cs : List Char}
    (hpiece : piece ++ (stringFrom quote fuel done cs).2 = cs)
    (hplain : plainInside quote piece = true) :
    stringFrom '"' fuel done (requote cs) =
      ((stringFrom quote fuel done cs).1, requote (stringFrom quote fuel done cs).2) := by
  induction fuel generalizing done piece cs with
  | zero => rfl
  | succ fuel ih =>
      -- `piece` is what the string still takes; each step drops from it what it reads.
      rcases cs with _ | ⟨c, rest⟩
      · rfl
      rw [stringFrom_cons] at hpiece ⊢
      rw [requote_cons, stringFrom_cons]
      simp only [requoteChar_eq_iff (d := '\\') (by decide) (by decide)]
      -- A backslash takes what follows with it; then come the end of the string, a line end that
      -- spoils it, and any other character.
      by_cases hbackslash : c = '\\'
      · subst hbackslash
        simp only [if_true] at hpiece ⊢
        rcases rest with _ | ⟨d, rest⟩
        · rfl
        have hnonempty : requote (d :: rest) ≠ [] := List.cons_ne_nil _ _
        simp only [if_neg (List.cons_ne_nil d rest), if_neg hnonempty,
          headIs_requote (p := isNewline) rfl] at hpiece ⊢
        by_cases hnewline : headIs isNewline (d :: rest) = true
        · simp only [if_pos hnewline] at hpiece ⊢
          obtain ⟨taken, htaken, hspaces⟩ := exists_append_dropNewline (d :: rest)
          obtain ⟨more, hmore, hparts⟩ := exists_eq_append_of_suffix taken
            (hpiece.trans (congrArg _ htaken.symm)) (stringFrom_suffix ..)
          have hspace : ∀ e ∈ (taken ++ more).head?, isSpaceChar e = true := by
            intro e he
            obtain ⟨tail, htail⟩ := List.head?_eq_some_iff.mp he
            rw [← hmore, ← List.append_assoc, htail, List.cons_append, List.cons.injEq] at htaken
            have hd : isNewline d = true := hnewline
            rw [htaken.1, isSpaceChar, hd, Bool.or_true]
          rw [hparts] at hplain
          rw [dropNewline_requote]
          exact ih done hmore (plainInside_append hquote (fun e he => .inr (hspaces e he))
            (plainInside_continued hspace hplain))
        · simp only [if_neg hnewline] at hpiece ⊢
          obtain ⟨taken, htaken, hclass⟩ := exists_append_escape d rest
          obtain ⟨more, hmore, hparts⟩ := exists_eq_append_of_suffix (d :: taken)
            (hpiece.trans (congrArg (fun tail => '\\' :: d :: tail) htaken.symm))
            (stringFrom_suffix ..)
          rw [hparts] at hplain
          obtain ⟨hd, hinside⟩ := plainInside_escaped hplain
          rw [requote_cons_of_ne hd, escape_requote hd]
          exact ih _ hmore (plainInside_append hquote hclass hinside)
      · simp only [if_neg hbackslash] at hpiece ⊢
        by_cases hclose : c = quote
        · have hmark : requoteChar c = '"' := by
            rcases hquote with rfl | rfl <;> rw [hclose] <;> rfl
          simp only [if_pos hclose, if_pos hmark]
        simp only [if_neg hclose] at hpiece ⊢
        by_cases hnewline : isNewline c = true
        · have hmarks : c ≠ '\'' ∧ c ≠ '"' := by
            constructor <;> rintro rfl <;> exact absurd hnewline (by decide)
          simp only [requoteChar_of_ne hmarks.1, if_neg hmarks.2, if_pos hnewline, requote_cons]
        simp only [if_neg hnewline] at hpiece ⊢
        -- a character inside is neither mark, so the rest is as plain as the whole was
        have hinside : ∀ {final : List Char}, piece ++ final = c :: rest → final <:+ rest →
            c ≠ '\'' ∧ c ≠ '"' ∧
              ∃ more, more ++ final = rest ∧ plainInside quote more = true := by
          intro final hfinal hsuffix
          obtain ⟨more, hmore, hparts⟩ :=
            exists_eq_append_of_suffix [] hfinal hsuffix
          rw [hparts] at hplain
          obtain ⟨hsingle, hdouble, hplain⟩ := plainInside_cons hbackslash hclose hplain
          exact ⟨hsingle, hdouble, more, hmore, hplain⟩
        by_cases hnull : (c == '\x00') = true
        · simp only [if_pos hnull] at hpiece ⊢
          obtain ⟨hsingle, hdouble, more, hmore, hplain⟩ :=
            hinside hpiece (stringFrom_suffix ..)
          simp only [requoteChar_of_ne hsingle, if_neg hdouble, if_neg hnewline, if_pos hnull]
          exact ih _ hmore hplain
        · simp only [if_neg hnull] at hpiece ⊢
          obtain ⟨hsingle, hdouble, more, hmore, hplain⟩ :=
            hinside hpiece (stringFrom_suffix ..)
          simp only [requoteChar_of_ne hsingle, if_neg hdouble, if_neg hnewline, if_neg hnull]
          exact ih _ hmore hplain

/-! ## Lexemes -/

/-- A comment is dropped from the front. -/
theorem dropComment_suffix (cs : List Char) : dropComment cs <:+ cs := by
  induction cs with
  | nil => exact List.suffix_rfl
  | cons c rest ih =>
      rw [dropComment.eq_def]
      split
      · next heq =>
          rw [heq]
          exact (List.suffix_cons '/' _).trans (List.suffix_cons '*' _)
      · next heq =>
          obtain ⟨rfl, rfl⟩ := List.cons.inj heq
          exact ih.trans (List.suffix_cons c rest)
      · next heq => nomatch heq

/-- A comment ends with its two signs. -/
theorem dropComment_cons (c : Char) (rest : List Char) :
    dropComment (c :: rest) =
      if headsAre (· == '*') (· == '/') (c :: rest) then rest.tail else dropComment rest := by
  rcases rest with _ | ⟨d, more⟩
  · simp [headsAre, headIs, dropComment]
  · by_cases hclose : c = '*' ∧ d = '/'
    · obtain ⟨rfl, rfl⟩ := hclose
      rfl
    · simp [headsAre, headIs, hclose]
      rw [dropComment]
      simpa using hclose

/-- A comment ends at the same place. -/
theorem dropComment_requote (cs : List Char) :
    dropComment (requote cs) = requote (dropComment cs) := by
  induction cs with
  | nil => rfl
  | cons c rest ih =>
      have hclose := headsAre_requote (p := (· == '*')) (q := (· == '/')) rfl rfl (c :: rest)
      rw [requote_cons] at hclose ⊢
      rw [dropComment_cons, dropComment_cons, hclose, tail_requote, ih]
      split <;> rfl

/-- The token at the front of a text, if it is not a comment, and what is left. -/
def readToken : List Char → Option Token × List Char
  | '/' :: '*' :: rest => (none, dropComment rest)
  | c :: rest =>
      if isSpaceChar c then (some .space, rest.dropWhile isSpaceChar)
      else (some (one c rest).1, (one c rest).2)
  | [] => (none, [])

/-- Whether a text starts with a comment. -/
def atComment (cs : List Char) : Bool :=
  headsAre (· == '/') (· == '*') cs

/-- A text begins with a comment, with spaces or with some other token. -/
theorem readToken_cons (c : Char) (rest : List Char) :
    readToken (c :: rest) =
      if atComment (c :: rest) then (none, dropComment rest.tail)
      else if isSpaceChar c then (some .space, rest.dropWhile isSpaceChar)
      else (some (one c rest).1, (one c rest).2) := by
  rcases rest with _ | ⟨d, more⟩
  · simp [readToken, atComment, headsAre, headIs]
  · by_cases hopen : c = '/' ∧ d = '*'
    · obtain ⟨rfl, rfl⟩ := hopen
      rfl
    · have hnot : atComment (c :: d :: more) = false := by
        simpa [atComment, headsAre, headIs] using hopen
      rw [hnot, readToken]
      · rfl
      · exact fun _ hc heq => hopen ⟨hc, (List.cons.inj heq).1⟩

/-- A token is read from the front. -/
theorem one_suffix (c : Char) (rest : List Char) : (one c rest).2 <:+ rest := by
  by_cases hsingle : c = '\''
  · subst hsingle
    exact stringFrom_suffix '\'' _ [] rest
  by_cases hdouble : c = '"'
  · subst hdouble
    exact stringFrom_suffix '"' _ [] rest
  · rw [one_eq hsingle hdouble]
    exact (quoteBlind_readOne hsingle).suffix rest

/-- A token takes the character that it starts with. -/
theorem readToken_suffix (c : Char) (rest : List Char) : (readToken (c :: rest)).2 <:+ rest := by
  rw [readToken_cons]
  split
  · exact (dropComment_suffix _).trans (List.tail_suffix rest)
  split
  · exact List.dropWhile_suffix _
  · exact one_suffix c rest

/-- One token is read, and then the others. -/
theorem tokensFrom_cons (fuel : Nat) (done : List Token) (c : Char) (rest : List Char) :
    tokensFrom (fuel + 1) done (c :: rest) =
      tokensFrom fuel ((readToken (c :: rest)).1.toList ++ done) (readToken (c :: rest)).2 := by
  rw [readToken_cons]
  by_cases hcomment : atComment (c :: rest) = true
  · rw [if_pos hcomment]
    rcases rest with _ | ⟨d, more⟩
    · simp [atComment, headsAre, headIs] at hcomment
    · obtain ⟨rfl, rfl⟩ : c = '/' ∧ d = '*' := by
        simpa [atComment, headsAre, headIs] using hcomment
      rfl
  · rw [if_neg hcomment, tokensFrom]
    · split <;> rfl
    · rintro more rfl rfl
      exact hcomment rfl

/-- A stretch of a text, and the token that it makes unless it is a comment. -/
structure Lexeme where
  text : List Char
  token : Option Token

/-- The stretches of a text one after the other, as many as the fuel allows. -/
def lexemesFrom : Nat → List Char → List Lexeme
  | 0, _ => []
  | _ + 1, [] => []
  | fuel + 1, c :: rest =>
      let (token, after) := readToken (c :: rest)
      ⟨(c :: rest).take ((c :: rest).length - after.length), token⟩ :: lexemesFrom fuel after

/-- The stretches of a text. -/
def lexemes (text : List Char) : List Lexeme :=
  lexemesFrom (text.length + 1) text

/-- What was read and what is left are the whole text. -/
theorem take_append_readToken (c : Char) (rest : List Char) :
    (c :: rest).take ((c :: rest).length - (readToken (c :: rest)).2.length)
      ++ (readToken (c :: rest)).2 = c :: rest :=
  List.suffix_iff_eq_append.mp ((readToken_suffix c rest).trans (List.suffix_cons c rest))

/-- **Stretches.**  Nothing of a text is outside its stretches. -/
theorem flatMap_text_lexemes (text : List Char) : (lexemes text).flatMap Lexeme.text = text := by
  have hfuel : ∀ (fuel : Nat) (cs : List Char), cs.length < fuel →
      (lexemesFrom fuel cs).flatMap Lexeme.text = cs := by
    intro fuel
    induction fuel with
    | zero => exact fun cs h => absurd h (Nat.not_lt_zero _)
    | succ fuel ih =>
        rintro (_ | ⟨c, rest⟩) h
        · rfl
        · have hlength := (readToken_suffix c rest).length_le
          rw [List.length_cons] at h
          rw [lexemesFrom, List.flatMap_cons, ih _ (by omega)]
          exact take_append_readToken c rest
  exact hfuel _ text (Nat.lt_succ_self _)

/-- Their tokens are the tokens of the text. -/
theorem filterMap_token_lexemes (text : List Char) :
    (lexemes text).filterMap Lexeme.token = Token.ofText text := by
  have hfuel : ∀ (fuel : Nat) (done : List Token) (cs : List Char),
      tokensFrom fuel done cs = done.reverse ++ (lexemesFrom fuel cs).filterMap Lexeme.token := by
    intro fuel
    induction fuel with
    | zero => exact fun done cs => (List.append_nil _).symm
    | succ fuel ih =>
        rintro done (_ | ⟨c, rest⟩)
        · exact (List.append_nil _).symm
        · rw [tokensFrom_cons, ih, lexemesFrom]
          cases htoken : (readToken (c :: rest)).1 with
          | none => simp [htoken]
          | some t => simp [htoken]
  exact (hfuel _ [] text).symm

/-- A stretch that makes the same token with double quotes for its single ones: a comment,
a string with neither mark inside, or anything else without a single quote. -/
def Lexeme.keepsQuotes (l : Lexeme) : Bool :=
  match l.text with
  | '/' :: '*' :: _ => true
  | '"' :: inside => plainInside '"' inside
  | '\'' :: inside => plainInside '\'' inside
  | text => !text.contains '\''

/-- Between other marks than these a stretch has no single quote to keep. -/
theorem notMem_of_keepsQuotes {c : Char} {piece : List Char} {token : Option Token}
    (h : Lexeme.keepsQuotes ⟨c :: piece, token⟩ = true) (hsingle : c ≠ '\'') (hdouble : c ≠ '"')
    (hcomment : atComment (c :: piece) = false) : '\'' ∉ c :: piece := by
  rw [Lexeme.keepsQuotes] at h
  split at h
  · next heq =>
      rw [show c :: piece = _ from heq] at hcomment
      simp [atComment, headsAre, headIs] at hcomment
  · next heq => exact absurd (List.cons.inj heq).1 hdouble
  · next heq => exact absurd (List.cons.inj heq).1 hsingle
  · simpa using h

/-- The token of a stretch that keeps its quotes, and where it ends. -/
theorem readToken_requote {c : Char} {piece rest : List Char}
    (hpiece : piece ++ (readToken (c :: rest)).2 = c :: rest)
    (hkeeps : Lexeme.keepsQuotes ⟨piece, (readToken (c :: rest)).1⟩ = true) :
    readToken (requote (c :: rest)) =
      ((readToken (c :: rest)).1, requote (readToken (c :: rest)).2) := by
  have hopen : atComment (requote (c :: rest)) = atComment (c :: rest) :=
    headsAre_requote rfl rfl _
  rw [requote_cons] at hopen ⊢
  rw [readToken_cons] at hpiece hkeeps ⊢
  rw [readToken_cons, hopen, class_requoteChar (p := isSpaceChar) rfl]
  by_cases hcomment : atComment (c :: rest) = true
  · simp only [if_pos hcomment, tail_requote, dropComment_requote]
  simp only [if_neg hcomment] at hpiece hkeeps ⊢
  by_cases hspace : isSpaceChar c = true
  · simp only [if_pos hspace, dropWhile_requote (p := isSpaceChar) rfl]
  simp only [if_neg hspace] at hpiece hkeeps ⊢
  obtain ⟨more, hmore, rfl⟩ := exists_eq_append_of_suffix [] hpiece (one_suffix c rest)
  rw [List.nil_append] at hkeeps
  have hone : one (requoteChar c) (requote rest)
      = ((one c rest).1, requote (one c rest).2) := by
    -- a string is read up to its own mark, everything else up to what is no part of it
    by_cases hsingle : c = '\''
    · subst hsingle
      change stringFrom '"' ((requote rest).length + 1) [] (requote rest) = _
      rw [length_requote]
      exact stringFrom_requote (.inr rfl) _ [] hmore hkeeps
    by_cases hdouble : c = '"'
    · subst hdouble
      change stringFrom '"' ((requote rest).length + 1) [] (requote rest) = _
      rw [length_requote]
      exact stringFrom_requote (.inl rfl) _ [] hmore hkeeps
    · have hfront : atComment (c :: more) = false := by
        rw [Bool.not_eq_true, ← hmore] at hcomment
        rcases more with _ | ⟨d, more⟩
        · simp [atComment, headsAre, headIs]
        · exact hcomment
      have hquote := notMem_of_keepsQuotes hkeeps hsingle hdouble hfront
      rw [List.mem_cons, not_or] at hquote
      rw [one_eq hsingle hdouble] at hmore
      rw [requoteChar_of_ne hsingle, one_eq hsingle hdouble, one_eq hsingle hdouble]
      exact (quoteBlind_readOne hsingle).requote rest ⟨more, hmore, hquote.2⟩
  rw [hone]

/-- **Quotation marks.**  A text whose stretches keep their quotes has the same tokens
with double quotes in place of its single ones. -/
theorem ofText_requote {text : List Char}
    (h : ∀ l ∈ lexemes text, l.keepsQuotes = true) :
    Token.ofText (requote text) = Token.ofText text := by
  have hfuel : ∀ (fuel : Nat) (done : List Token) (cs : List Char),
      (∀ l ∈ lexemesFrom fuel cs, l.keepsQuotes = true) →
      tokensFrom fuel done (requote cs) = tokensFrom fuel done cs := by
    intro fuel
    induction fuel with
    | zero => exact fun done cs _ => rfl
    | succ fuel ih =>
        rintro done (_ | ⟨c, rest⟩) hkeeps
        · rfl
        rw [lexemesFrom, List.forall_mem_cons] at hkeeps
        have hread := readToken_requote (take_append_readToken c rest) hkeeps.1
        rw [requote_cons] at hread ⊢
        rw [tokensFrom_cons, tokensFrom_cons, hread]
        exact ih _ _ hkeeps.2
  rw [Token.ofText, Token.ofText, length_requote]
  exact hfuel _ [] text h

end BookCensus.Css
