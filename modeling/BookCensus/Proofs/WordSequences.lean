import BookCensus.Text.Blank
import Mathlib.Data.List.Infix

/-!
# Texts as sequences of words

`Text.words` reads a text once from left to right.  What comes out is described here
without that reading, by what happens where two texts meet:

* at a blank the words of both sides stay as they are (`words_append_blank`);
* a piece without blanks lies inside a single word, together with what touches it on
  either side (`exists_words_around`);
* the words of words written with single spaces between them are those words again
  (`words_joinWords`).

What is put in front of a text or behind it may lengthen the outermost words of the text
but never takes anything out of its collapsed form (`collapseChars_suffix_append` and
`collapseChars_prefix_append`).
-/

namespace BookCensus.Text

/-- A word: some characters, none of them blank. -/
def IsWord (w : List Char) : Prop :=
  w ≠ [] ∧ ∀ c ∈ w, isBlank c = false

/-- A run of blanks, perhaps of none. -/
def IsBlankRun (u : List Char) : Prop :=
  ∀ c ∈ u, isBlank c = true

/-- A text of blanks is a run of them. -/
theorem isBlankRun_toList {u : String} (hu : isBlankText u = true) : IsBlankRun u.toList :=
  List.all_eq_true.mp hu

/-- The single space of collapsed texts is a blank. -/
theorem isBlank_space : isBlank ' ' = true := by
  decide

/-! ## One reading from left to right -/

section Reading

variable {word : List Char} {done : List (List Char)}

/-- Words that were finished before stay in front. -/
theorem wordsFrom_eq (text word : List Char) (done : List (List Char)) :
    wordsFrom text word done = done.reverse ++ wordsFrom text word [] := by
  induction text generalizing word done with
  | nil => cases word <;> simp [wordsFrom, finishWord]
  | cons c rest ih =>
      by_cases hc : isBlank c
      · rw [wordsFrom, wordsFrom, if_pos hc, if_pos hc, ih [] (finishWord word done),
          ih [] (finishWord word [])]
        cases word <;> simp [finishWord]
      · rw [wordsFrom, wordsFrom, if_neg hc, if_neg hc]
        exact ih (c :: word) done

/-- A blank finishes the word under way, and a new reading begins behind it. -/
theorem wordsFrom_append_blank {b : Char} (hb : isBlank b = true) (s t : List Char) :
    wordsFrom (s ++ b :: t) word done = wordsFrom s word done ++ words t := by
  induction s generalizing word done with
  | nil =>
      rw [List.nil_append]
      simp only [wordsFrom, if_pos hb]
      exact wordsFrom_eq t [] (finishWord word done)
  | cons c rest ih =>
      rw [List.cons_append, wordsFrom, wordsFrom]
      split
      · exact ih
      · exact ih

/-- Characters that are not blank go to the word under way. -/
theorem wordsFrom_append_of_notBlank {piece : List Char} (h : ∀ c ∈ piece, isBlank c = false)
    (t : List Char) :
    wordsFrom (piece ++ t) word done = wordsFrom t (piece.reverse ++ word) done := by
  induction piece generalizing word with
  | nil => rfl
  | cons c rest ih =>
      have hc : ¬ isBlank c = true := by simp [h c]
      rw [List.cons_append, wordsFrom, if_neg hc, ih fun d hd => h d (List.mem_cons_of_mem c hd),
        List.reverse_cons, List.append_assoc, List.singleton_append]

end Reading

/-! ## Words where texts meet -/

/-- There is no word in the empty text. -/
@[simp]
theorem words_nil : words [] = [] :=
  rfl

/-- At a blank, the words of both sides stay as they are. -/
theorem words_append_blank {b : Char} (hb : isBlank b = true) (s t : List Char) :
    words (s ++ b :: t) = words s ++ words t :=
  wordsFrom_append_blank hb s t

/-- A blank in front is in no word. -/
theorem words_cons_blank {b : Char} (hb : isBlank b = true) (t : List Char) :
    words (b :: t) = words t :=
  words_append_blank hb [] t

/-- Nor are several blanks in front. -/
theorem words_blankRun_append {u : List Char} (hu : IsBlankRun u) (t : List Char) :
    words (u ++ t) = words t := by
  induction u with
  | nil => rfl
  | cons b rest ih =>
      rw [List.cons_append, words_cons_blank (hu b List.mem_cons_self)]
      exact ih fun c hc => hu c (List.mem_cons_of_mem b hc)

/-- At a run of blanks that is not empty, the words of both sides stay as they are. -/
theorem words_append_blankRun_append {u : List Char} (hu : IsBlankRun u) (hne : u ≠ [])
    (s t : List Char) : words (s ++ u ++ t) = words s ++ words t := by
  obtain ⟨b, rest, rfl⟩ := List.exists_cons_of_ne_nil hne
  have hrest : IsBlankRun rest := fun c hc => hu c (List.mem_cons_of_mem b hc)
  rw [List.append_assoc, List.cons_append, words_append_blank (hu b List.mem_cons_self),
    words_blankRun_append hrest]

/-- Nor are blanks at the end. -/
theorem words_append_blankRun {u : List Char} (hu : IsBlankRun u) (s : List Char) :
    words (s ++ u) = words s := by
  by_cases hne : u = []
  · rw [hne, List.append_nil]
  · simpa using words_append_blankRun_append hu hne s []

/-- Blanks around a text do not belong to its words. -/
theorem collapse_padded {u v : String} (hu : isBlankText u = true) (hv : isBlankText v = true)
    (s : String) : collapse (u ++ s ++ v) = collapse s := by
  rw [collapse, collapse, collapseChars, collapseChars, String.toList_append,
    String.toList_append, words_append_blankRun (isBlankRun_toList hv),
    words_blankRun_append (isBlankRun_toList hu)]

/-- A word is read as a whole up to a blank or the end of the text. -/
theorem words_word_append {w : List Char} (hw : IsWord w) (t : List Char) :
    words (w ++ t) =
      (w ++ t.takeWhile fun c => !isBlank c) :: words (t.dropWhile fun c => !isBlank c) := by
  -- a character that is no blank belongs to the word, which therefore grows in the induction
  induction t generalizing w with
  | nil =>
      rw [words, wordsFrom_append_of_notBlank hw.2, List.append_nil]
      simp [wordsFrom, finishWord, hw.1]
  | cons c rest ih =>
      by_cases hc : isBlank c
      · have hone : words w = [w] := by
          rw [words, ← List.append_nil w, wordsFrom_append_of_notBlank hw.2, List.append_nil,
            List.append_nil]
          simp [wordsFrom, finishWord, hw.1]
        rw [words_append_blank hc, hone]
        simp [hc, words_cons_blank hc]
      · have hlonger : IsWord (w ++ [c]) := by
          refine ⟨by simp, ?_⟩
          intro d hd
          rcases List.mem_append.mp hd with hd | hd
          · exact hw.2 d hd
          · rw [List.mem_singleton.mp hd]
            simpa using hc
        have hread := ih hlonger
        rw [List.append_assoc, List.singleton_append] at hread
        rw [hread]
        simp [hc]

/-- A word is read as itself. -/
theorem words_of_isWord {w : List Char} (hw : IsWord w) : words w = [w] := by
  simpa using words_word_append hw []

/-- What a text ends with before its last blank is settled, and only the piece behind that
blank joins what follows. -/
theorem exists_words_append (l : List Char) :
    ∃ before piece, (∀ c ∈ piece, isBlank c = false) ∧
      ∀ t, words (l ++ t) = before ++ words (piece ++ t) := by
  induction l using List.reverseRecOn with
  | nil => exact ⟨[], [], by simp, by simp⟩
  | append_singleton l c ih =>
      by_cases hc : isBlank c
      · refine ⟨words l, [], by simp, ?_⟩
        intro t
        rw [List.append_assoc, List.singleton_append, words_append_blank hc, List.nil_append]
      · obtain ⟨before, piece, hpiece, hwords⟩ := ih
        refine ⟨before, piece ++ [c], ?_, ?_⟩
        · intro d hd
          rcases List.mem_append.mp hd with hd | hd
          · exact hpiece d hd
          · rw [List.mem_singleton.mp hd]
            simpa using hc
        · intro t
          rw [List.append_assoc, List.append_assoc, hwords]

/-- What is not blank makes a word longer, not another one. -/
theorem IsWord.append_left {w left : List Char} (hw : IsWord w)
    (hleft : ∀ c ∈ left, isBlank c = false) : IsWord (left ++ w) := by
  refine ⟨List.append_ne_nil_of_right_ne_nil left hw.1, ?_⟩
  intro c hc
  exact (List.mem_append.mp hc).elim (hleft c) (hw.2 c)

/-- **A piece without blanks** lies inside a single word, together with what touches it on
either side. -/
theorem exists_words_around {w : List Char} (hw : IsWord w) (l r : List Char) :
    ∃ before left right after,
      words (l ++ w ++ r) = before ++ (left ++ w ++ right) :: after := by
  obtain ⟨before, left, hleft, hwords⟩ := exists_words_append l
  have hread := words_word_append (hw.append_left hleft) r
  refine ⟨before, left, r.takeWhile fun c => !isBlank c,
    words (r.dropWhile fun c => !isBlank c), ?_⟩
  rw [List.append_assoc, hwords, ← List.append_assoc, hread]

/-- At the end of a text, a piece without blanks is the end of the last word. -/
theorem exists_words_append_word {w : List Char} (hw : IsWord w) (l : List Char) :
    ∃ before left, words (l ++ w) = before ++ [left ++ w] := by
  obtain ⟨before, left, hleft, hwords⟩ := exists_words_append l
  exact ⟨before, left, by rw [hwords, words_of_isWord (hw.append_left hleft)]⟩

/-- Finishing the word under way adds a word, or nothing. -/
theorem isWord_of_mem_finishWord {word : List Char} {done : List (List Char)}
    (hword : ∀ c ∈ word, isBlank c = false) (hdone : ∀ w ∈ done, IsWord w) :
    ∀ w ∈ finishWord word done, IsWord w := by
  intro w hw
  unfold finishWord at hw
  split at hw
  · exact hdone w hw
  · next hne =>
      rcases List.mem_cons.mp hw with rfl | hw
      · refine ⟨by simpa using hne, ?_⟩
        intro c hc
        exact hword c (List.mem_reverse.mp hc)
      · exact hdone w hw

/-- A reading finishes nothing but words, when it began with such. -/
theorem isWord_of_mem_wordsFrom {text word : List Char} {done : List (List Char)}
    (hword : ∀ c ∈ word, isBlank c = false) (hdone : ∀ w ∈ done, IsWord w) :
    ∀ w ∈ wordsFrom text word done, IsWord w := by
  have hfinish := isWord_of_mem_finishWord hword hdone
  induction text generalizing word done with
  | nil =>
      intro w hw
      exact hfinish w (List.mem_reverse.mp hw)
  | cons c rest ih =>
      rw [wordsFrom]
      split
      · exact ih (by simp) hfinish (isWord_of_mem_finishWord (by simp) hfinish)
      · next hc =>
          have hlonger : ∀ d ∈ c :: word, isBlank d = false := by
            intro d hd
            rcases List.mem_cons.mp hd with rfl | hd
            · simpa using hc
            · exact hword d hd
          exact ih hlonger hdone (isWord_of_mem_finishWord hlonger hdone)

/-- Words have characters, and none of them is blank. -/
theorem isWord_of_mem_words {text w : List Char} (h : w ∈ words text) : IsWord w :=
  isWord_of_mem_wordsFrom (by simp) (by simp) w h

/-! ## Words written one after the other -/

/-- One word is written as it is. -/
@[simp]
theorem joinWords_singleton (w : List Char) : joinWords [w] = w :=
  List.intercalate_singleton

/-- Between the first two words there is a space. -/
theorem joinWords_cons_cons (w v : List Char) (ws : List (List Char)) :
    joinWords (w :: v :: ws) = w ++ ' ' :: joinWords (v :: ws) := by
  rw [joinWords, List.intercalate_cons_cons, List.append_assoc, List.singleton_append]
  rfl

/-- Between words written before and words written behind there is a space, too. -/
theorem joinWords_append {ws vs : List (List Char)} (hws : ws ≠ []) (hvs : vs ≠ []) :
    joinWords (ws ++ vs) = joinWords ws ++ ' ' :: joinWords vs := by
  obtain ⟨v, rest, rfl⟩ := List.exists_cons_of_ne_nil hvs
  induction ws with
  | nil => exact absurd rfl hws
  | cons w ws ih =>
      cases ws with
      | nil => simp [joinWords_cons_cons]
      | cons u ws =>
          have hrest := ih (List.cons_ne_nil u ws)
          rw [List.cons_append] at hrest
          rw [List.cons_append, List.cons_append, joinWords_cons_cons, joinWords_cons_cons, hrest,
            List.append_assoc, List.cons_append]

/-- What stands in front of the first word stands in front of all of them. -/
theorem joinWords_append_cons (left w : List Char) (ws : List (List Char)) :
    joinWords ((left ++ w) :: ws) = left ++ joinWords (w :: ws) := by
  cases ws with
  | nil => simp
  | cons v ws => rw [joinWords_cons_cons, joinWords_cons_cons, List.append_assoc]

/-- What stands behind the last word stands behind all of them. -/
theorem joinWords_concat_append (ws : List (List Char)) (w right : List Char) :
    joinWords (ws ++ [w ++ right]) = joinWords (ws ++ [w]) ++ right := by
  by_cases hws : ws = []
  · simp [hws]
  · rw [joinWords_append hws (List.cons_ne_nil _ _), joinWords_append hws (List.cons_ne_nil _ _),
      joinWords_singleton, joinWords_singleton, List.append_assoc, List.cons_append]

/-- The words in front are at the front of what is written. -/
theorem joinWords_prefix_append (ws after : List (List Char)) :
    joinWords ws <+: joinWords (ws ++ after) := by
  by_cases hws : ws = []
  · rw [hws]
    exact List.nil_prefix
  by_cases hafter : after = []
  · rw [hafter, List.append_nil]
  · rw [joinWords_append hws hafter]
    exact List.prefix_append _ _

/-- The words behind are at its end. -/
theorem joinWords_suffix_append (before ws : List (List Char)) :
    joinWords ws <:+ joinWords (before ++ ws) := by
  by_cases hws : ws = []
  · rw [hws]
    exact List.nil_suffix
  by_cases hbefore : before = []
  · rw [hbefore, List.nil_append]
  · rw [joinWords_append hbefore hws, ← List.singleton_append, ← List.append_assoc]
    exact List.suffix_append _ _

/-- Words next to one another are written next to one another. -/
theorem joinWords_infix (before ws after : List (List Char)) :
    joinWords ws <:+: joinWords (before ++ ws ++ after) :=
  (joinWords_suffix_append before ws).isInfix.trans
    (joinWords_prefix_append (before ++ ws) after).isInfix

/-- The words of words written with single spaces between them are those words again. -/
theorem words_joinWords {ws : List (List Char)} (h : ∀ w ∈ ws, IsWord w) :
    words (joinWords ws) = ws := by
  induction ws with
  | nil => rfl
  | cons w ws ih =>
      have hw : IsWord w := h w List.mem_cons_self
      have hws : words (joinWords ws) = ws := ih fun v hv => h v (List.mem_cons_of_mem w hv)
      cases ws with
      | nil => rw [joinWords_singleton, words_of_isWord hw]
      | cons v ws =>
          rw [joinWords_cons_cons, words_append_blank isBlank_space, words_of_isWord hw, hws,
            List.singleton_append]

/-- Collapsing keeps the words. -/
theorem words_collapseChars (text : List Char) : words (collapseChars text) = words text :=
  words_joinWords fun _ => isWord_of_mem_words

/-! ## Collapsed texts inside one another -/

/-- A character in front of a text that does not begin with a blank goes to its first word. -/
theorem collapseChars_cons_cons {c d : Char} (hc : isBlank c = false) (hd : isBlank d = false)
    (t : List Char) : collapseChars (c :: d :: t) = c :: collapseChars (d :: t) := by
  have hword : IsWord [d] := ⟨List.cons_ne_nil d [], by simpa using hd⟩
  have hlonger : IsWord [c, d] := ⟨List.cons_ne_nil c [d], by simp [hc, hd]⟩
  have hread := words_word_append hword t
  have hreadLonger := words_word_append hlonger t
  simp only [List.cons_append, List.nil_append] at hread hreadLonger
  rw [collapseChars, collapseChars, hread, hreadLonger]
  exact joinWords_append_cons [c] _ _

/-- What stands in front of a text takes nothing out of its collapsed form. -/
theorem collapseChars_suffix_append (l text : List Char) :
    collapseChars text <:+ collapseChars (l ++ text) := by
  induction l with
  | nil => exact List.suffix_refl _
  | cons c l ih =>
      refine ih.trans ?_
      rw [List.cons_append]
      by_cases hc : isBlank c
      · rw [collapseChars, collapseChars, words_cons_blank hc]
      · have hc := Bool.not_eq_true _ ▸ hc
        cases hrest : l ++ text with
        | nil => exact List.nil_suffix
        | cons d t =>
            -- in front of a blank the character is a word, else it begins the first word
            by_cases hd : isBlank d
            · have hword : IsWord [c] := ⟨List.cons_ne_nil c [], by simpa using hc⟩
              have hread := words_append_blank hd [c] t
              rw [List.singleton_append, words_of_isWord hword] at hread
              rw [collapseChars, collapseChars, hread, words_cons_blank hd]
              exact joinWords_suffix_append [[c]] (words t)
            · rw [collapseChars_cons_cons hc (by simpa using hd)]
              exact List.suffix_cons c _

/-- What stands behind a text takes nothing out of its collapsed form. -/
theorem collapseChars_prefix_append (text r : List Char) :
    collapseChars text <+: collapseChars (text ++ r) := by
  obtain ⟨before, piece, hpiece, hwords⟩ := exists_words_append text
  have hread := hwords []
  rw [List.append_nil, List.append_nil] at hread
  rw [collapseChars, collapseChars, hread, hwords r]
  by_cases hne : piece = []
  · rw [hne, words_nil, List.append_nil]
    exact joinWords_prefix_append before _
  · have hword : IsWord piece := ⟨hne, hpiece⟩
    have hpieces : joinWords (before ++ [piece])
        <+: joinWords (before ++ [piece ++ r.takeWhile fun c => !isBlank c]) := by
      rw [joinWords_concat_append]
      exact List.prefix_append _ _
    rw [words_of_isWord hword, words_word_append hword, List.append_cons before (piece ++ _)]
    exact hpieces.trans (joinWords_prefix_append _ _)

/-- **Collapsed pieces.**  The collapsed form of a piece of a text is a piece of the
collapsed form of the text, wherever the piece is cut out. -/
theorem collapseChars_infix (l text r : List Char) :
    collapseChars text <:+: collapseChars (l ++ text ++ r) :=
  (collapseChars_suffix_append l text).isInfix.trans
    (collapseChars_prefix_append (l ++ text) r).isInfix

end BookCensus.Text
