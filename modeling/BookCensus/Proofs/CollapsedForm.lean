import BookCensus.Proofs.WordSequences
import Mathlib.Data.List.Induction
import Mathlib.Data.List.TakeWhile

/-!
# The collapsed form of a text

`Text.collapse` takes a text apart into words and writes these with one space between
neighbours.  Both ends of this can be said without doing it.

* `HasWords` — which words a text has: blanks, a word as long as it goes, blanks, and so on.
  Every text has one sequence of words, the one that is read from it (`hasWords_iff`).
* `IsCollapsed` — what a collapsed text looks like: every blank in it is a space, and stands
  between two characters that are not blank.  Collapsed texts put together with a space stay
  collapsed unless one of them is empty (`isCollapsed_append_space_iff`).

`collapse_canonical` puts them together.  Among the texts with the same words exactly one is
collapsed, and that is what all of them collapse to; so pieces of a text that are parted by
blanks can be collapsed each by itself beforehand.
-/

namespace BookCensus.Text

/-! ## The words of a text -/

/-- A text has no words when it is blank.  Otherwise it has a word behind some blanks, up to
the next blank or the end, and then the words of what follows. -/
inductive HasWords : List Char → List (List Char) → Prop
  | blank {u : List Char} (hu : IsBlankRun u) : HasWords u []
  | word {u w rest : List Char} {ws : List (List Char)} (hu : IsBlankRun u) (hw : IsWord w)
      (hends : ∀ c, rest.head? = some c → isBlank c = true) (hrest : HasWords rest ws) :
      HasWords (u ++ w ++ rest) (w :: ws)

/-- A word that ends where a blank follows is read as it stands. -/
theorem words_word_append_of_ends {w rest : List Char} (hw : IsWord w)
    (hends : ∀ c, rest.head? = some c → isBlank c = true) :
    words (w ++ rest) = w :: words rest := by
  rw [words_word_append hw]
  cases rest with
  | nil => simp
  | cons c rest =>
      have hc : isBlank c = true := hends c rfl
      simp [hc]

/-- A text with some words is read as these. -/
theorem HasWords.words_eq {text : List Char} {ws : List (List Char)} (h : HasWords text ws) :
    words text = ws := by
  induction h with
  | @blank u hu =>
      have hread := words_append_blankRun hu []
      rwa [List.nil_append] at hread
  | word hu hw hends hrest ih =>
      rw [List.append_assoc, words_blankRun_append hu, words_word_append_of_ends hw hends, ih]

/-- Another blank in front changes nothing. -/
theorem HasWords.cons_blank {c : Char} (hc : isBlank c = true) {text : List Char}
    {ws : List (List Char)} (h : HasWords text ws) : HasWords (c :: text) ws := by
  have hlonger {u : List Char} (hu : IsBlankRun u) : IsBlankRun (c :: u) := by
    intro d hd
    rcases List.mem_cons.mp hd with rfl | hd
    · exact hc
    · exact hu d hd
  cases h with
  | blank hu => exact .blank (hlonger hu)
  | word hu hw hends hrest => exact .word (hlonger hu) hw hends hrest

/-- Every text has the words that are read from it. -/
theorem hasWords_words (text : List Char) : HasWords text (words text) := by
  -- By the length: a blank goes by itself, a word all at once.
  induction hn : text.length using Nat.strong_induction_on generalizing text with
  | _ n ih =>
    cases text with
    | nil => exact .blank nofun
    | cons c rest =>
        rw [List.length_cons] at hn
        by_cases hc : isBlank c
        · rw [words_cons_blank hc]
          exact (ih rest.length (by omega) rest rfl).cons_blank hc
        · let plain : Char → Bool := fun d => !isBlank d
          have hw : IsWord (c :: rest.takeWhile plain) := by
            refine ⟨List.cons_ne_nil _ _, ?_⟩
            intro d hd
            rcases List.mem_cons.mp hd with rfl | hd
            · simpa using hc
            · simpa [plain] using List.mem_takeWhile_imp hd
          have hends : ∀ d, (rest.dropWhile plain).head? = some d → isBlank d = true := by
            intro d hd
            have hstop := List.head?_dropWhile_not plain rest
            rw [hd] at hstop
            simpa [plain] using hstop
          have hshorter : (rest.dropWhile plain).length < n := by
            have hle := (List.dropWhile_suffix (l := rest) plain).length_le
            omega
          have htext : c :: rest = [] ++ (c :: rest.takeWhile plain) ++ rest.dropWhile plain := by
            simp
          rw [htext, List.nil_append, words_word_append_of_ends hw hends]
          exact HasWords.word (u := []) nofun hw hends (ih _ hshorter _ rfl)

/-- **One sequence of words.**  A text has the words that are read from it, and no others. -/
theorem hasWords_iff {text : List Char} {ws : List (List Char)} :
    HasWords text ws ↔ words text = ws := by
  constructor
  · exact HasWords.words_eq
  · rintro rfl
    exact hasWords_words text

/-! ## What a collapsed text looks like -/

/-- The first character is there and not blank. -/
def BeginsPlain (text : List Char) : Prop :=
  ∃ c, text.head? = some c ∧ isBlank c = false

/-- The last character is there and not blank. -/
def EndsPlain (text : List Char) : Prop :=
  ∃ c, text.getLast? = some c ∧ isBlank c = false

/-- Every blank in a text is a space between two characters that are not blank. -/
def IsCollapsed (text : List Char) : Prop :=
  ∀ before c after, text = before ++ c :: after → isBlank c = true →
    c = ' ' ∧ EndsPlain before ∧ BeginsPlain after

section Shape

variable {s t : List Char}

/-- A text that begins with a character has one. -/
theorem BeginsPlain.ne_nil (h : BeginsPlain t) : t ≠ [] := by
  rintro rfl
  obtain ⟨c, hc, -⟩ := h
  cases hc

/-- A text that ends with a character has one. -/
theorem EndsPlain.ne_nil (h : EndsPlain s) : s ≠ [] := by
  rintro rfl
  obtain ⟨c, hc, -⟩ := h
  cases hc

/-- What follows a text does not change how it begins. -/
theorem BeginsPlain.append (h : BeginsPlain s) (t : List Char) : BeginsPlain (s ++ t) := by
  obtain ⟨c, hc, hplain⟩ := h
  refine ⟨c, ?_, hplain⟩
  rw [List.head?_append, hc]
  rfl

/-- What stands in front of a text does not change how it ends. -/
theorem EndsPlain.append_left (h : EndsPlain t) (s : List Char) : EndsPlain (s ++ t) := by
  obtain ⟨c, hc, hplain⟩ := h
  refine ⟨c, ?_, hplain⟩
  rw [List.getLast?_append, hc]
  rfl

/-- A collapsed text does not begin with a blank. -/
theorem IsCollapsed.isBlank_head {c : Char} (h : IsCollapsed (c :: t)) : isBlank c = false := by
  rw [← Bool.not_eq_true]
  intro hc
  obtain ⟨-, hbefore, -⟩ := h [] c t rfl hc
  exact hbefore.ne_nil rfl

/-- A collapsed text begins with a character that is not blank, unless it is empty. -/
theorem IsCollapsed.beginsPlain (h : IsCollapsed t) (hne : t ≠ []) : BeginsPlain t := by
  obtain ⟨c, rest, rfl⟩ := List.exists_cons_of_ne_nil hne
  exact ⟨c, rfl, h.isBlank_head⟩

/-- A collapsed text does not end with a blank. -/
theorem IsCollapsed.endsPlain (h : IsCollapsed s) (hne : s ≠ []) : EndsPlain s := by
  obtain ⟨front, c, rfl⟩ := List.eq_nil_or_concat' s |>.resolve_left hne
  refine ⟨c, List.getLast?_concat .., ?_⟩
  rw [← Bool.not_eq_true]
  intro hc
  obtain ⟨-, -, hafter⟩ := h front c [] rfl hc
  exact hafter.ne_nil rfl

/-- What follows in a collapsed text is collapsed, unless it is cut off at a blank. -/
theorem IsCollapsed.of_append (h : IsCollapsed (s ++ t)) (hbegins : BeginsPlain t) :
    IsCollapsed t := by
  intro before c after htext hc
  have hwhole : s ++ t = (s ++ before) ++ c :: after := by
    rw [htext, List.append_assoc]
  obtain ⟨hspace, hends, hafter⟩ := h (s ++ before) c after hwhole hc
  refine ⟨hspace, ?_, hafter⟩
  cases before with
  | nil =>
      obtain ⟨d, hd, hplain⟩ := hbegins
      rw [htext] at hd
      obtain rfl : c = d := Option.some.inj hd
      rw [hc] at hplain
      cases hplain
  | cons b before =>
      obtain ⟨d, hd, hplain⟩ := hends
      refine ⟨d, ?_, hplain⟩
      rwa [List.getLast?_append_of_ne_nil _ (List.cons_ne_nil b before)] at hd

/-- A word has no blank that could be out of place. -/
theorem IsWord.isCollapsed (h : IsWord s) : IsCollapsed s := by
  rintro before c after rfl hc
  rw [h.2 c (by simp)] at hc
  cases hc

/-- A space may stand between collapsed texts that are not empty: it has a character that is not
blank on either side. -/
theorem IsCollapsed.append_space (hs : IsCollapsed s) (ht : IsCollapsed t) (hsne : s ≠ [])
    (htne : t ≠ []) : IsCollapsed (s ++ ' ' :: t) := by
  intro before c after htext hc
  have hends := hs.endsPlain hsne
  have hbegins := ht.beginsPlain htne
  -- the blank stands in the first text, between the two, or in the second one
  rcases List.append_eq_append_iff.mp htext with ⟨more, rfl, hmore⟩ | ⟨more, rfl, hmore⟩
  · cases more with
    | nil =>
        obtain ⟨rfl, rfl⟩ := List.cons.inj hmore
        exact ⟨rfl, by simpa using hends, hbegins⟩
    | cons d more =>
        obtain ⟨rfl, rfl⟩ := List.cons.inj hmore
        obtain ⟨hspace, hbefore, hafter⟩ := ht more c after rfl hc
        refine ⟨hspace, ?_, hafter⟩
        have hlonger := hbefore.append_left (s ++ [' '])
        rwa [List.append_assoc, List.singleton_append] at hlonger
  · cases more with
    | nil =>
        obtain ⟨rfl, rfl⟩ := List.cons.inj hmore
        exact ⟨rfl, by simpa using hends, hbegins⟩
    | cons d more =>
        obtain ⟨rfl, rfl⟩ := List.cons.inj hmore
        obtain ⟨hspace, hbefore, hafter⟩ := hs before c more rfl hc
        exact ⟨hspace, hbefore, hafter.append _⟩

/-- **A space between collapsed texts.**  The whole is collapsed unless one of them is
empty. -/
theorem isCollapsed_append_space_iff (hs : IsCollapsed s) (ht : IsCollapsed t) :
    IsCollapsed (s ++ ' ' :: t) ↔ s ≠ [] ∧ t ≠ [] := by
  constructor
  · intro h
    obtain ⟨-, hends, hbegins⟩ := h s ' ' t rfl isBlank_space
    exact ⟨hends.ne_nil, hbegins.ne_nil⟩
  · rintro ⟨hsne, htne⟩
    exact hs.append_space ht hsne htne

/-- The empty text has no blank that could be out of place. -/
theorem isCollapsed_nil : IsCollapsed [] := by
  intro before c after htext
  simp at htext

/-- Words that are written one after the other leave something. -/
theorem joinWords_ne_nil {w : List Char} (hw : IsWord w) (ws : List (List Char)) :
    joinWords (w :: ws) ≠ [] := by
  cases ws with
  | nil =>
      rw [joinWords_singleton]
      exact hw.1
  | cons v ws =>
      rw [joinWords_cons_cons]
      exact List.append_ne_nil_of_left_ne_nil hw.1 _

/-- Words with single spaces between them are a collapsed text. -/
theorem isCollapsed_joinWords {ws : List (List Char)} (h : ∀ w ∈ ws, IsWord w) :
    IsCollapsed (joinWords ws) := by
  induction ws with
  | nil => exact isCollapsed_nil
  | cons w ws ih =>
      have hw : IsWord w := h w List.mem_cons_self
      have hrest : IsCollapsed (joinWords ws) := ih fun v hv => h v (List.mem_cons_of_mem w hv)
      cases ws with
      | nil =>
          rw [joinWords_singleton]
          exact hw.isCollapsed
      | cons v ws =>
          have hv : IsWord v := h v (by simp)
          rw [joinWords_cons_cons]
          exact hw.isCollapsed.append_space hrest hw.1 (joinWords_ne_nil hv ws)

/-- What collapsing leaves is collapsed. -/
theorem isCollapsed_collapseChars (text : List Char) : IsCollapsed (collapseChars text) :=
  isCollapsed_joinWords fun _ => isWord_of_mem_words

/-- Collapsing leaves a collapsed text as it is.  The induction takes two characters at a
time, since a space goes together with the character in front of it. -/
theorem IsCollapsed.collapseChars_eq {text : List Char} (h : IsCollapsed text) :
    collapseChars text = text := by
  induction text using List.twoStepInduction with
  | nil => rfl
  | singleton c =>
      have hw : IsWord [c] := ⟨List.cons_ne_nil c [], by simpa using h.isBlank_head⟩
      rw [collapseChars, words_of_isWord hw, joinWords_singleton]
  | cons_cons c d rest ih ihd =>
      have hc : isBlank c = false := h.isBlank_head
      by_cases hd : isBlank d
      · obtain ⟨rfl, -, hbegins⟩ := h [c] d rest rfl hd
        have hrest : collapseChars rest = rest := ih (h.of_append (s := [c, ' ']) hbegins)
        have hw : IsWord [c] := ⟨List.cons_ne_nil c [], by simpa using hc⟩
        have hread : words (c :: ' ' :: rest) = [[c]] ++ words rest := by
          have hblank := words_append_blank isBlank_space [c] rest
          rwa [words_of_isWord hw] at hblank
        -- a space has a word behind it, so joining puts the space back
        have hne : words rest ≠ [] := by
          intro hnone
          rw [collapseChars, hnone] at hrest
          exact hbegins.ne_nil hrest.symm
        rw [collapseChars, hread, joinWords_append (List.cons_ne_nil _ _) hne,
          joinWords_singleton]
        rw [collapseChars] at hrest
        rw [hrest]
        rfl
      · have hd : isBlank d = false := by simpa using hd
        rw [collapseChars_cons_cons hc hd, ihd d (h.of_append (s := [c]) ⟨d, rfl, hd⟩)]

end Shape

/-! ## Collapsing -/

/-- Collapsing a text is collapsing its characters. -/
theorem toList_collapse (s : String) : (collapse s).toList = collapseChars s.toList :=
  String.toList_ofList

/-- The first half of the canonical form: collapsing leaves a collapsed text. -/
theorem isCollapsed_collapse (s : String) : IsCollapsed (collapse s).toList := by
  rw [toList_collapse]
  exact isCollapsed_collapseChars s.toList

/-- A text collapses to itself exactly when it is collapsed. -/
theorem collapse_eq_self_iff {s : String} : collapse s = s ↔ IsCollapsed s.toList := by
  constructor
  · intro h
    have hcollapsed := isCollapsed_collapse s
    rwa [h] at hcollapsed
  · intro h
    rw [collapse, h.collapseChars_eq, String.ofList_toList]

/-- Texts collapse to the same exactly when they have the same words. -/
theorem collapse_eq_collapse_iff {s t : String} :
    collapse s = collapse t ↔ words s.toList = words t.toList := by
  constructor
  · intro h
    have hwords := congrArg (fun text => words (String.toList text)) h
    simpa only [toList_collapse, words_collapseChars] using hwords
  · intro h
    rw [collapse, collapse, collapseChars, collapseChars, h]

/-- Collapsing twice is collapsing once. -/
theorem collapse_collapse (s : String) : collapse (collapse s) = collapse s :=
  collapse_eq_self_iff.mpr (isCollapsed_collapse s)

/-- Pieces that blanks part can be collapsed beforehand. -/
theorem collapse_append_blank {w : String} (hne : w ≠ "") (hw : isBlankText w = true)
    (s t : String) : collapse (s ++ w ++ t) = collapse (collapse s ++ w ++ collapse t) := by
  have hrun := isBlankRun_toList hw
  have hsome : w.toList ≠ [] := by simpa using hne
  rw [collapse_eq_collapse_iff]
  simp only [String.toList_append, toList_collapse]
  rw [words_append_blankRun_append hrun hsome, words_append_blankRun_append hrun hsome,
    words_collapseChars, words_collapseChars]

/-- **A canonical form.**  A collapsed text has no blank but single spaces between
characters that are not blank.  Collapsing keeps the words of a text, of which there is one
sequence, and what has been collapsed stays as it is; just those texts stay as they are that
look like that.  Two texts collapse to the same exactly when they have the same words.  And
on either side of some blanks, a text may be collapsed beforehand. -/
theorem collapse_canonical :
    (∀ s, IsCollapsed (collapse s).toList) ∧
    (∀ s, ∃ ws, ∀ vs, (HasWords s.toList vs ↔ vs = ws) ∧
      (HasWords (collapse s).toList vs ↔ vs = ws)) ∧
    (∀ s, collapse (collapse s) = collapse s) ∧
    (∀ s, collapse s = s ↔ IsCollapsed s.toList) ∧
    (∀ s t, collapse s = collapse t ↔ ∀ ws, HasWords s.toList ws ↔ HasWords t.toList ws) ∧
    (∀ s w t, w ≠ "" → isBlankText w = true →
      collapse (s ++ w ++ t) = collapse (collapse s ++ w ++ collapse t)) := by
  refine ⟨isCollapsed_collapse, ?_, collapse_collapse, fun s => collapse_eq_self_iff, ?_,
    fun s w t hne hw => collapse_append_blank hne hw s t⟩
  · intro s
    refine ⟨words s.toList, ?_⟩
    intro vs
    rw [hasWords_iff, hasWords_iff, toList_collapse, words_collapseChars]
    exact ⟨eq_comm, eq_comm⟩
  · intro s t
    rw [collapse_eq_collapse_iff]
    simp only [hasWords_iff]
    constructor
    · intro h ws
      rw [h]
    · intro h
      exact (h (words t.toList)).mpr rfl

/-- Blanks of several kinds between two texts, with further ones inside and at the ends. -/
theorem collapse_canonical_wide :
    "\u3000\n" ≠ "" ∧ isBlankText "\u3000\n" = true ∧
      collapse ("\ta \u00a0b" ++ "\u3000\n" ++ "c ") = "a b c" ∧
      collapse ("\ta \u00a0b" ++ "\u3000\n" ++ "c ")
        = collapse (collapse "\ta \u00a0b" ++ "\u3000\n" ++ collapse "c ") := by
  have hne : "\u3000\n" ≠ "" := by decide
  have hblank : isBlankText "\u3000\n" = true := by decide
  obtain ⟨-, -, -, -, -, happend⟩ := collapse_canonical
  exact ⟨hne, hblank, by decide, happend "\ta \u00a0b" "\u3000\n" "c " hne hblank⟩

end BookCensus.Text
