import BookCensus.Proofs.MarkerOccurrence
import BookCensus.Proofs.ScanMeaning
import BookCensus.Proofs.WordSequences

/-!
# Substring tests on words

The argument of `:hasText` taken as a substring is looked for in the text of an element,
both collapsed.  Said character by character, that hides what a reader of the selector
has in mind, which is words: one word may be any piece of a word of the text, and several
words must stand next to one another there, of which only the first and the last may be
cut off on their outer side.

* `joinWords_infix_joinWords_iff` — a piece of collapsed text, word by word;
* `TextTest.accepts_iff_standsIn` — the test of an argument; how much blank there is
  between words or at the ends of either text does not matter.
-/

namespace BookCensus

namespace Text

/-- How the words of a piece of text stand among the words of the text: a single one
inside a word, several across words next to one another. -/
inductive StandsIn : List (List Char) → List (List Char) → Prop
  | nothing (vs : List (List Char)) : StandsIn [] vs
  | inside {w v : List Char} (before after : List (List Char)) (h : w <:+: v) :
      StandsIn [w] (before ++ v :: after)
  | across {first last v v' : List Char} (before middle after : List (List Char))
      (hfirst : first <:+ v) (hlast : last <+: v') :
      StandsIn (first :: (middle ++ [last])) (before ++ v :: (middle ++ v' :: after))

/-! ## From characters to words -/

/-- A word that is found in a text stands inside a word of the text. -/
theorem standsIn_of_word {w : List Char} (hw : IsWord w) (l r : List Char) :
    StandsIn [w] (words (l ++ w ++ r)) := by
  obtain ⟨before, left, right, after, hwords⟩ := exists_words_around hw l r
  rw [hwords]
  exact StandsIn.inside before after ⟨left, right, rfl⟩

/-- Several words that are found in a text stand across words of the text: where they
meet, so do words of the text. -/
theorem standsIn_of_words {first last : List Char} {middle : List (List Char)}
    (hfirst : IsWord first) (hlast : IsWord last) (hmiddle : ∀ w ∈ middle, IsWord w)
    (l r : List Char) :
    StandsIn (first :: (middle ++ [last]))
      (words (l ++ joinWords (first :: (middle ++ [last])) ++ r)) := by
  obtain ⟨before, left, hleft⟩ := exists_words_append_word hfirst l
  have hright := words_word_append hlast r
  -- the text, cut at the blanks behind the first word and in front of the last one
  have hcut : words (l ++ joinWords (first :: (middle ++ [last])) ++ r)
      = words (l ++ first) ++ (middle ++ words (last ++ r)) := by
    by_cases hne : middle = []
    · have htext : l ++ joinWords (first :: (middle ++ [last])) ++ r
          = (l ++ first) ++ ' ' :: (last ++ r) := by
        simp [hne, joinWords_cons_cons]
      rw [htext, words_append_blank isBlank_space, hne, List.nil_append]
    · have htext : l ++ joinWords (first :: (middle ++ [last])) ++ r
          = (l ++ first) ++ ' ' :: (joinWords middle ++ ' ' :: (last ++ r)) := by
        have hjoin := joinWords_append (List.cons_ne_nil first [])
          (List.append_ne_nil_of_left_ne_nil hne [last])
        rw [List.singleton_append] at hjoin
        rw [hjoin, joinWords_append hne (List.cons_ne_nil last [])]
        simp
      rw [htext, words_append_blank isBlank_space, words_append_blank isBlank_space,
        words_joinWords hmiddle]
  rw [hcut, hleft, hright, List.append_assoc, List.singleton_append]
  exact StandsIn.across before middle _ (List.suffix_append left first)
    (List.prefix_append last _)

/-! ## From words to characters -/

/-- Words that stand among others are found in what is written for these. -/
theorem StandsIn.joinWords_infix {ws vs : List (List Char)} (h : StandsIn ws vs) :
    joinWords ws <:+: joinWords vs := by
  cases h with
  | nothing => exact List.nil_infix
  | @inside w v before after h =>
      have hword := Text.joinWords_infix before [v] after
      rw [joinWords_singleton, List.append_assoc, List.singleton_append] at hword
      rw [joinWords_singleton]
      exact h.trans hword
  | @across first last v v' before middle after hfirst hlast =>
      obtain ⟨left, rfl⟩ := hfirst
      obtain ⟨right, rfl⟩ := hlast
      have hlonger : joinWords ((left ++ first) :: (middle ++ [last ++ right]))
          = left ++ joinWords (first :: (middle ++ [last])) ++ right := by
        rw [joinWords_append_cons, ← List.cons_append, joinWords_concat_append,
          List.append_assoc, List.cons_append]
      have hwords := Text.joinWords_infix before
        ((left ++ first) :: (middle ++ [last ++ right])) after
      rw [hlonger] at hwords
      have hall : before ++ (left ++ first) :: (middle ++ [last ++ right]) ++ after
          = before ++ (left ++ first) :: (middle ++ (last ++ right) :: after) := by
        simp
      rw [hall] at hwords
      exact List.IsInfix.trans ⟨left, right, rfl⟩ hwords

/-- **Pieces of collapsed text.**  Words written one after the other are a piece of other
words written so exactly when they stand among them. -/
theorem joinWords_infix_joinWords_iff {ws vs : List (List Char)} (hws : ∀ w ∈ ws, IsWord w)
    (hvs : ∀ v ∈ vs, IsWord v) : joinWords ws <:+: joinWords vs ↔ StandsIn ws vs := by
  refine ⟨?_, StandsIn.joinWords_infix⟩
  rintro ⟨l, r, htext⟩
  rw [← words_joinWords hvs, ← htext]
  cases ws with
  | nil => exact StandsIn.nothing _
  | cons first rest =>
      have hfirst : IsWord first := hws first List.mem_cons_self
      rcases List.eq_nil_or_concat rest with rfl | ⟨middle, last, rfl⟩
      · rw [joinWords_singleton]
        exact standsIn_of_word hfirst l r
      · rw [List.concat_eq_append] at hws ⊢
        refine standsIn_of_words hfirst (hws last (by simp)) ?_ l r
        intro w hw
        exact hws w (by simp [hw])

/-! ## Blanks that do not matter -/

/-- One text is the other with a run of blanks replaced by another one, or with blanks put
at its ends. -/
inductive Respaced : String → String → Prop
  | between (s t : String) {u v : String} (hu : IsBlankRun u.toList) (hv : IsBlankRun v.toList)
      (hu' : u ≠ "") (hv' : v ≠ "") : Respaced (s ++ u ++ t) (s ++ v ++ t)
  | around (s : String) {u v : String} (hu : IsBlankRun u.toList) (hv : IsBlankRun v.toList) :
      Respaced s (u ++ s ++ v)

/-- The words stay. -/
theorem Respaced.words_eq {s t : String} (h : Respaced s t) :
    words t.toList = words s.toList := by
  cases h with
  | between s t hu hv hu' hv' =>
      simp only [String.toList_append]
      rw [words_append_blankRun_append hu (by simpa using hu'),
        words_append_blankRun_append hv (by simpa using hv')]
  | around s hu hv =>
      simp only [String.toList_append]
      rw [words_append_blankRun hv, words_blankRun_append hu]

/-- Texts with the same words collapse to the same. -/
theorem Respaced.collapse_eq {s t : String} (h : Respaced s t) : collapse t = collapse s := by
  rw [collapse, collapse, collapseChars, collapseChars, h.words_eq]

end Text

namespace TextTest

open Text Document

/-- The test of a substring finds the words of its argument among those of a text. -/
theorem accepts_collapse_iff (argument text : String) :
    (substring (collapse argument)).accepts (collapse text) = true
      ↔ StandsIn (words argument.toList) (words text.toList) := by
  rw [accepts, contains, occursIn_iff, collapse, collapse, String.toList_ofList,
    String.toList_ofList]
  exact joinWords_infix_joinWords_iff (fun _ => isWord_of_mem_words)
    (fun _ => isWord_of_mem_words)

/-- **Substring tests are tests of words.**  Every argument can be taken as a substring.
A text that is collapsed passes the test exactly when the words of the argument stand among
its words, and so does an element with the text below it; and other blanks between words
or at the ends, of the argument or of the text, change nothing. -/
theorem accepts_iff_standsIn (argument : String) :
    ∃ test, compile argument .substring = .ok test ∧
      (∀ text, test.accepts (collapse text) = true
        ↔ StandsIn (words argument.toList) (words text.toList)) ∧
      (∀ e : Place, (MatchFilter.hasText test).passes e = true
        ↔ StandsIn (words argument.toList) (words e.rawText.toList)) ∧
      ∀ argument', Respaced argument argument' →
        ∃ test', compile argument' .substring = .ok test' ∧
          ∀ text text', Respaced text text' →
            test'.accepts (collapse text') = test.accepts (collapse text) := by
  refine ⟨_, rfl, accepts_collapse_iff argument, ?_, ?_⟩
  · intro e
    rw [MatchFilter.passes, e.text_eq_collapse_rawText]
    exact accepts_collapse_iff argument e.rawText
  · intro argument' hargument
    refine ⟨_, rfl, ?_⟩
    intro text text' htext
    rw [hargument.collapse_eq, htext.collapse_eq]

end TextTest

end BookCensus
