import BookCensus.Census.Scan
import BookCensus.Proofs.DisplayRoundTrip
import BookCensus.Proofs.SelectorAgreement
import BookCensus.Proofs.WordSequences
import Mathlib.Data.List.TakeWhile

/-!
# Blanks around the parts of a selector

Blanks are left out in three places: behind the last parenthesis when a hybrid selector is
cut, at both ends of a structural part when it is read, and between the words of an argument
that is taken as a piece of text.  Between these places and the text as it was written stand
the search for a marker and the cut at it.

A marker has no blank in it, so blanks put around a text add no marker to it and take none
away (`Marker.count_padded`), and the cut only hands them on to the part they touch
(`Hybrid.Closes.padded` and `Hybrid.exists_closes_of_padded`).  There they are left out.

The main statement is `behaveAlike_padded`: blanks around a selector, in front of its marker
and just inside its parentheses change neither whether it is accepted, nor why it is refused,
nor what it matches.
-/

namespace BookCensus

open Text Document

/-! ## Selectors that behave alike -/

/-- The same refusal, but for blanks at the ends of a structural part that cannot be read.
What the engine says of the part is the same. -/
inductive SelectorError.SameButBlanks : SelectorError → SelectorError → Prop
  | refl (e : SelectorError) : SameButBlanks e e
  | malformed {part part' complaint : String}
      (h : trimBlank part.toList = trimBlank part'.toList) :
      SameButBlanks (.malformed part complaint) (.malformed part' complaint)

/-- Two readings of a selector end alike: both well, or both with the same refusal but for
blanks. -/
inductive EndAlike {α : Type} (same : α → α → Prop) :
    Except SelectorError α → Except SelectorError α → Prop
  | accepted {a a' : α} (h : same a a') : EndAlike same (.ok a) (.ok a')
  | refused {e e' : SelectorError} (h : e.SameButBlanks e') : EndAlike same (.error e) (.error e')

/-- Two plans match the same elements, in the same order, below every element of every
document. -/
def Plan.SameMatches (plan plan' : Plan) : Prop :=
  ∀ page, plan.matchSet page = plan'.matchSet page

/-- Two selectors behave alike: plans made of them match the same, where there are plans, and
the check says the same of both. -/
structure BehaveAlike [Css.Wording] (mode : TextMatch) (s s' : String) : Prop where
  plans : EndAlike Plan.SameMatches (Plan.parse s mode) (Plan.parse s' mode)
  checks : EndAlike (fun _ _ => True) (checkSelector s) (checkSelector s')

/-- Going on alike after readings that end alike. -/
theorem EndAlike.map {α β : Type} {same : α → α → Prop} {same' : β → β → Prop} {f f' : α → β}
    (hf : ∀ a a', same a a' → same' (f a) (f' a')) {r r' : Except SelectorError α}
    (h : EndAlike same r r') : EndAlike same' (r.map f) (r'.map f') := by
  cases h with
  | accepted h => exact .accepted (hf _ _ h)
  | refused h => exact .refused h

/-- Where both selectors have `:hasText` or both have not, the check says the same of both
when plans of both end alike. -/
theorem BehaveAlike.of_plans [Css.Wording] {mode : TextMatch} {s s' : String}
    (hcount : Marker.hasText.count s' = Marker.hasText.count s)
    (h : EndAlike Plan.SameMatches (Plan.parse s mode) (Plan.parse s' mode)) :
    BehaveAlike mode s s' := by
  have hsame : ":hasText".toList <:+: s'.toList ↔ ":hasText".toList <:+: s.toList := by
    rw [← not_iff_not]
    exact (Marker.hasText.count_eq_zero_iff s').symm.trans
      (hcount ▸ Marker.hasText.count_eq_zero_iff s)
  refine ⟨h, ?_⟩
  by_cases htext : ":hasText".toList <:+: s.toList
  · rw [checkSelector_of_hasText htext, checkSelector_of_hasText (hsame.mpr htext)]
    exact .accepted trivial
  · rw [checkSelector_eq_map_parse htext mode,
      checkSelector_eq_map_parse (fun h => htext (hsame.mp h)) mode]
    exact h.map fun _ _ _ => trivial

/-! ## Blanks and what is left out -/

namespace Text

/-- A character that is no blank is not among blanks. -/
theorem IsBlankRun.notMem {u : List Char} (hu : IsBlankRun u) {c : Char}
    (hc : isBlank c = false) : c ∉ u := by
  intro hmem
  rw [hu c hmem] at hc
  cases hc

/-- Blanks around a text are left out. -/
theorem trimBlank_padded {u v : List Char} (hu : IsBlankRun u) (hv : IsBlankRun v)
    (text : List Char) : trimBlank (u ++ text ++ v) = trimBlank text := by
  rw [trimBlank, trimBlank, List.append_assoc, List.dropWhile_append_of_pos hu]
  by_cases hblank : text.dropWhile isBlank = []
  · have htext : IsBlankRun text := List.dropWhile_eq_nil_iff.mp hblank
    have hboth : (text ++ v).dropWhile isBlank = [] :=
      List.dropWhile_eq_nil_iff.mpr fun c hc => (List.mem_append.mp hc).elim (htext c) (hv c)
    rw [hblank, hboth]
  · rw [List.dropWhile_append, if_neg (by simpa using hblank)]
    exact dropBlankEnd_append _ (List.all_eq_true.mpr hv)

/-- The same of the characters of a text. -/
theorem trimBlank_toList_padded {u v : String} (hu : isBlankText u = true)
    (hv : isBlankText v = true) (s : String) :
    trimBlank (u ++ s ++ v).toList = trimBlank s.toList := by
  rw [String.toList_append, String.toList_append,
    trimBlank_padded (isBlankRun_toList hu) (isBlankRun_toList hv)]

/-- What stands before a character that is not in the front of a text begins with that
front. -/
theorem exists_of_append_eq_append_cons {u t before rest : List Char} {c : Char} (hc : c ∉ u)
    (h : u ++ t = before ++ c :: rest) :
    ∃ before', before = u ++ before' ∧ t = before' ++ c :: rest := by
  rcases List.append_eq_append_iff.mp h with ⟨before', hbefore, ht⟩ | ⟨u', hu, hrest⟩
  · exact ⟨before', hbefore, ht⟩
  · cases u' with
    | nil =>
        rw [List.append_nil] at hu
        exact ⟨[], by rw [hu, List.append_nil], hrest.symm⟩
    | cons d u' =>
        obtain ⟨rfl, -⟩ := List.cons.inj hrest
        exact absurd (hu ▸ by simp) hc

/-- What stands behind a character that is not in the end of a text ends with that end. -/
theorem exists_of_append_eq_cons_append {t v before rest : List Char} {c : Char} (hc : c ∉ v)
    (h : t ++ v = before ++ c :: rest) :
    ∃ rest', rest = rest' ++ v ∧ t = before ++ c :: rest' := by
  rcases List.append_eq_append_iff.mp h with ⟨front, -, hv⟩ | ⟨front, ht, hrest⟩
  · exact absurd (hv ▸ by simp) hc
  · cases front with
    | nil =>
        rw [List.nil_append] at hrest
        exact absurd (hrest ▸ List.mem_cons_self) hc
    | cons d front =>
        obtain ⟨rfl, hbehind⟩ := List.cons.inj hrest
        exact ⟨front, hbehind, ht⟩

end Text

/-! ## Markers and blanks -/

namespace Marker

/-- **Blanks around a text** add no marker and hide none. -/
theorem count_padded (m : Marker) {u v : String} (hu : isBlankText u = true)
    (hv : isBlankText v = true) (s : String) : m.count (u ++ s ++ v) = m.count s := by
  obtain ⟨letters, htext, hcolon⟩ := m.exists_letters
  have hletters : ∀ c ∈ letters, isBlank c = false := by
    have hnone : m.text.toList.any isBlank = false := by cases m <;> decide
    intro c hc
    have hmem : c ∈ m.text.toList := htext ▸ List.mem_cons_of_mem _ hc
    exact Bool.eq_false_iff.mpr (List.any_eq_false.mp hnone c hmem)
  have hnone {w : List Char} (hw : IsBlankRun w) : ':' ∉ w := hw.notMem (by decide)
  have hbehind : occurrences (':' :: letters) v.toList = 0 := by
    have h : occurrences (':' :: letters) (v.toList ++ []) = occurrences (':' :: letters) [] :=
      occurrences_append_of_notMem (hnone (isBlankRun_toList hv)) []
    rw [List.append_nil] at h
    exact h
  rw [count, count, htext, String.toList_append, String.toList_append, List.append_assoc,
    occurrences_append_of_notMem (hnone (isBlankRun_toList hu))]
  cases hlist : v.toList with
  | nil => rw [List.append_nil]
  | cons b rest =>
      have hb : b ∉ letters := by
        intro hmem
        have hblank := isBlankRun_toList hv b (hlist ▸ List.mem_cons_self)
        rw [hletters b hmem] at hblank
        cases hblank
      rw [occurrences_append_cons hb, ← hlist, hbehind, Nat.add_zero]

/-- How a marker is written behind a base, with an argument and nothing behind that. -/
theorem written_empty (m : Marker) (base argument : String) :
    m.written base argument "" = base ++ (m.text ++ "(") ++ argument ++ ")" := by
  simp only [written, String.append_empty, String.append_assoc]

/-- Where `:hasText` is written, it leads. -/
theorem hasText_leads_written (base argument : String) :
    hasText.Leads (hasText.written base argument "") := by
  have hcount := hasText.count_written .hasText base argument ""
  rw [count_text_self] at hcount
  exact leads_hasText_iff.mpr (by omega)

/-- Blanks around a text do not change which marker leads. -/
theorem leads_padded_iff {m : Marker} {u v : String} (hu : isBlankText u = true)
    (hv : isBlankText v = true) {s : String} : m.Leads (u ++ s ++ v) ↔ m.Leads s := by
  cases m with
  | hasText => rw [leads_hasText_iff, leads_hasText_iff, count_padded _ hu hv]
  | has => rw [leads_has_iff, leads_has_iff, count_padded _ hu hv, count_padded _ hu hv]

end Marker

namespace Hybrid

variable {u v : String} {m : Marker}

/-- Blanks in front of a closed text go to its base, those behind it to what follows the
argument. -/
theorem Closes.padded (hu : isBlankText u = true) (hv : isBlankText v = true)
    {s base argument w : String} (h : Closes m s base argument w) :
    Closes m (u ++ s ++ v) (u ++ base) argument (w ++ v) := by
  refine ⟨(Marker.leads_padded_iff hu hv).mpr h.leads, ?_, ?_, ?_⟩
  · rw [Marker.count_padded m hu hv, h.once]
  · rw [isBlankText, String.toList_append, List.all_append, Bool.and_eq_true]
    exact ⟨h.blank, hv⟩
  · rw [h.written]
    simp only [String.append_assoc]

/-- A text is closed when it is with blanks around it: they cannot reach the marker or the
last parenthesis. -/
theorem exists_closes_of_padded (hu : isBlankText u = true) (hv : isBlankText v = true)
    {s base argument w : String} (h : Closes m (u ++ s ++ v) base argument w) :
    ∃ base' w', Closes m s base' argument w' := by
  obtain ⟨letters, htext, -⟩ := m.exists_letters
  have hlist : u.toList ++ (s.toList ++ v.toList) = base.toList ++
      ':' :: (letters ++ '(' :: argument.toList ++ ')' :: w.toList) := by
    have hwritten := congrArg String.toList h.written
    simpa [htext] using hwritten
  obtain ⟨base', -, hbehind⟩ :=
    exists_of_append_eq_append_cons ((isBlankRun_toList hu).notMem (by decide)) hlist
  have hclose : s.toList ++ v.toList =
      (base' ++ ':' :: letters ++ '(' :: argument.toList) ++ ')' :: w.toList := by
    rw [hbehind]
    simp
  obtain ⟨w', hw, hs⟩ :=
    exists_of_append_eq_cons_append ((isBlankRun_toList hv).notMem (by decide)) hclose
  refine ⟨String.ofList base', String.ofList w', (Marker.leads_padded_iff hu hv).mp h.leads,
    ?_, ?_, ?_⟩
  · rw [← Marker.count_padded m hu hv, h.once]
  · have hblank := h.blank
    rw [isBlankText, hw, List.all_append, Bool.and_eq_true] at hblank
    rw [isBlankText, String.toList_ofList, hblank.1]
  · rw [← String.toList_inj, hs]
    simp [htext]

/-- The same parts, but for blanks that are left out when the parts are read. -/
inductive SameButBlanks (mode : TextMatch) : Hybrid → Hybrid → Prop
  | none {base base' : String} (h : trimBlank base.toList = trimBlank base'.toList) :
      SameButBlanks mode ⟨base, .none⟩ ⟨base', .none⟩
  | has {base base' inner inner' : String} (h : trimBlank base.toList = trimBlank base'.toList)
      (hinner : trimBlank inner.toList = trimBlank inner'.toList) :
      SameButBlanks mode ⟨base, .has inner⟩ ⟨base', .has inner'⟩
  | hasText {base base' argument argument' : String}
      (h : trimBlank base.toList = trimBlank base'.toList)
      (htest : TextTest.compile argument mode = TextTest.compile argument' mode) :
      SameButBlanks mode ⟨base, .hasText argument⟩ ⟨base', .hasText argument'⟩

/-- The same operator behind bases that are the same but for blanks. -/
theorem SameButBlanks.operator {mode : TextMatch} {base base' : String} (m : Marker)
    (argument : String) (h : trimBlank base.toList = trimBlank base'.toList) :
    SameButBlanks mode ⟨base, m.operator argument⟩ ⟨base', m.operator argument⟩ := by
  cases m with
  | has => exact .has h rfl
  | hasText => exact .hasText h rfl

/-- **Blanks around a selector.**  With them it is cut into the same parts, or refused for the
same reason. -/
theorem parse_padded (hu : isBlankText u = true) (hv : isBlankText v = true) {s : String}
    (hs : s ≠ "") (mode : TextMatch) :
    EndAlike (SameButBlanks mode) (parse s) (parse (u ++ s ++ v)) := by
  have houtcome := outcome_parse s
  generalize parse s = read at houtcome ⊢
  cases houtcome with
  | empty h => exact absurd h hs
  | plain hne hcount =>
      have hends : u ++ s ++ v ≠ "" := by simp [hs]
      rw [parse_plain hends (by rw [Marker.count_padded _ hu hv, hcount])]
      exact .accepted (.none (trimBlank_toList_padded hu hv s).symm)
  | @nested m hm htwice =>
      rw [parse_nested ((Marker.leads_padded_iff hu hv).mpr hm)
        (by rwa [Marker.count_padded m hu hv])]
      exact .refused (.refl _)
  | @closed m base argument w h =>
      rw [parse_closed (h.padded hu hv)]
      have hbase := trimBlank_toList_padded hu (v := "") rfl base
      rw [String.append_empty] at hbase
      exact .accepted (.operator m argument hbase.symm)
  | @unclosed m hm honce hno =>
      rw [parse_unclosed ((Marker.leads_padded_iff hu hv).mpr hm)
        (by rw [Marker.count_padded m hu hv, honce])]
      · exact .refused (.refl _)
      · rintro ⟨base, argument, w, h⟩
        obtain ⟨base', w', h'⟩ := exists_closes_of_padded hu hv h
        exact hno ⟨base', argument, w', h'⟩

/-- A written operator is read as itself, or refused for a second marker. -/
theorem parse_written (m : Marker) {base argument : String}
    (hleads : m.Leads (m.written base argument "")) :
    parse (m.written base argument "") =
      if m.count base = 0 ∧ m.count argument = 0 then .ok ⟨base, m.operator argument⟩
      else .error (.nested m) := by
  split
  · next h =>
      rw [← display_operator]
      exact (parse_display_operator_iff m base argument).mpr h
  · next h =>
      refine parse_nested hleads ?_
      rw [Marker.count_written, Marker.count_text_self, Marker.count_empty]
      omega

end Hybrid

/-! ## Reading the parts -/

/-- A structural part with other blanks at its ends is read as the same list, or refused with
the same words. -/
theorem Structural.compile_cases [Css.Wording] {part part' : String}
    (h : trimBlank part.toList = trimBlank part'.toList) :
    (∃ list, compile part = .ok ⟨part, list⟩ ∧ compile part' = .ok ⟨part', list⟩) ∨
      ∃ complaint, compile part = .error (.malformed part complaint) ∧
        compile part' = .error (.malformed part' complaint) := by
  cases hread : Css.SelectorList.parse? (trimBlank part.toList) with
  | none =>
      refine Or.inr ⟨_, compile_eq_error_iff.mpr ⟨hread, rfl⟩, compile_eq_error_iff.mpr ?_⟩
      rw [← h]
      exact ⟨hread, rfl⟩
  | some list =>
      refine Or.inl ⟨list, compile_eq_ok_iff.mpr ⟨rfl, hread⟩, compile_eq_ok_iff.mpr ?_⟩
      rw [← h]
      exact ⟨rfl, hread⟩

namespace Plan

/-- Once the base is read, a plan waits for the filter alone. -/
theorem compile_of_ok [Css.Wording] {h : Hybrid} {mode : TextMatch} {base : Structural}
    (hbase : Structural.compile h.base = .ok base) :
    compile h mode = (filterOf mode h.operator).map fun filter => ⟨h, base, filter⟩ := by
  rw [compile, hbase]
  cases filterOf mode h.operator <;> rfl

/-- Without a base there is no plan, whatever the operator is. -/
theorem compile_of_error [Css.Wording] {h : Hybrid} {mode : TextMatch} {e : SelectorError}
    (hbase : Structural.compile h.base = .error e) : compile h mode = .error e := by
  rw [compile, hbase]
  rfl

end Plan

namespace Hybrid.SameButBlanks

variable {mode : TextMatch} {h h' : Hybrid}

/-- The bases are the same but for blanks. -/
theorem base_eq (hsame : h.SameButBlanks mode h') :
    trimBlank h.base.toList = trimBlank h'.base.toList := by
  cases hsame <;> assumption

/-- The filters let the same elements pass. -/
theorem filterOf [Css.Wording] (hsame : h.SameButBlanks mode h') :
    EndAlike (fun filter filter' => ∀ p, filter.passes p = filter'.passes p)
      (Plan.filterOf mode h.operator) (Plan.filterOf mode h'.operator) := by
  cases hsame with
  | none => exact .accepted fun _ => rfl
  | has _ hinner =>
      rcases Structural.compile_cases hinner with ⟨list, hread, hread'⟩ | ⟨words, hread, hread'⟩
      · simp only [Plan.filterOf, hread, hread']
        exact .accepted fun _ => rfl
      · simp only [Plan.filterOf, hread, hread']
        exact .refused (.malformed hinner)
  | @hasText _ _ argument argument' _ htest =>
      simp only [Plan.filterOf, htest]
      cases TextTest.compile argument' mode with
      | ok test => exact .accepted fun _ => rfl
      | error e => exact .refused (.refl e)

/-- **Hybrids that are the same but for blanks** make plans that match the same. -/
theorem compile [Css.Wording] (hsame : h.SameButBlanks mode h') :
    EndAlike Plan.SameMatches (Plan.compile h mode) (Plan.compile h' mode) := by
  rcases Structural.compile_cases hsame.base_eq with ⟨list, hread, hread'⟩ | ⟨words, hread, hread'⟩
  · rw [Plan.compile_of_ok hread, Plan.compile_of_ok hread']
    refine hsame.filterOf.map ?_
    intro filter filter' hpasses page
    exact List.filter_congr fun p _ => hpasses p
  · rw [Plan.compile_of_error hread, Plan.compile_of_error hread']
    exact .refused (.malformed hsame.base_eq)

end Hybrid.SameButBlanks

/-- Selectors that are cut into the same parts but for blanks make plans that match the
same. -/
theorem Plan.parse_alike [Css.Wording] {mode : TextMatch} {s s' : String}
    (h : EndAlike (Hybrid.SameButBlanks mode) (Hybrid.parse s) (Hybrid.parse s')) :
    EndAlike Plan.SameMatches (Plan.parse s mode) (Plan.parse s' mode) := by
  rw [Plan.parse, Plan.parse]
  generalize Hybrid.parse s = read at h
  generalize Hybrid.parse s' = read' at h
  cases h with
  | accepted hsame => exact hsame.compile
  | refused he => exact .refused he

/-! ## Blanks around the parts -/

section Padded

variable {u u' v : String}

/-- Blanks around a whole selector. -/
theorem behaveAlike_around [Css.Wording] (hu : isBlankText u = true) (hv : isBlankText v = true)
    {s : String} (hs : s ≠ "") (mode : TextMatch) : BehaveAlike mode s (u ++ s ++ v) :=
  .of_plans (Marker.count_padded _ hu hv s) (Plan.parse_alike (Hybrid.parse_padded hu hv hs mode))

/-- Blanks in front of a marker that leads and just inside its parentheses. -/
theorem behaveAlike_inside [Css.Wording] (hu : isBlankText u = true) (hu' : isBlankText u' = true)
    (hv : isBlankText v = true) {m : Marker} {base argument : String} {mode : TextMatch}
    (hleads : m.Leads (m.written base argument ""))
    (hsame : Hybrid.SameButBlanks mode ⟨base, m.operator argument⟩
      ⟨base ++ u, m.operator (u' ++ argument ++ v)⟩) :
    BehaveAlike mode (m.written base argument "")
      (m.written (base ++ u) (u' ++ argument ++ v) "") := by
  have hbase (n : Marker) : n.count (base ++ u) = n.count base := by
    simpa using n.count_padded (u := "") rfl hu base
  have hcount (n : Marker) : n.count (m.written (base ++ u) (u' ++ argument ++ v) "")
      = n.count (m.written base argument "") := by
    rw [Marker.count_written, Marker.count_written, hbase, n.count_padded hu' hv]
  have hleads' : m.Leads (m.written (base ++ u) (u' ++ argument ++ v) "") := by
    cases m with
    | hasText => rwa [Marker.leads_hasText_iff, hcount]
    | has => rwa [Marker.leads_has_iff, hcount, hcount]
  refine .of_plans (hcount _) (Plan.parse_alike ?_)
  rw [Hybrid.parse_written m hleads, Hybrid.parse_written m hleads', hbase,
    m.count_padded hu' hv]
  split
  · exact .accepted hsame
  · exact .refused (.refl _)

/-- **Blanks do not matter around the parts of a selector.**  A selector that is not empty
behaves as it does with blanks around it; one with `:has`, of which neither base nor argument
has `:hasText`, as it does with blanks in front of the marker and just inside the parentheses,
in both modes; and one with `:hasText` so when its argument is taken as a piece of text.  That
is, both are accepted, with plans that match the same below every element, or both refused for
the same reason; and so they are by the check. -/
theorem behaveAlike_padded [Css.Wording] (hu : isBlankText u = true) (hu' : isBlankText u' = true)
    (hv : isBlankText v = true) :
    (∀ s mode, s ≠ "" → BehaveAlike mode s (u ++ s ++ v)) ∧
    (∀ base inner mode, ¬ ":hasText".toList <:+: base.toList →
      ¬ ":hasText".toList <:+: inner.toList →
      BehaveAlike mode (base ++ ":has(" ++ inner ++ ")")
        (base ++ u ++ ":has(" ++ u' ++ inner ++ v ++ ")")) ∧
    ∀ base argument, BehaveAlike .substring (base ++ ":hasText(" ++ argument ++ ")")
      (base ++ u ++ ":hasText(" ++ u' ++ argument ++ v ++ ")") := by
  have hpadded (m : Marker) (base argument : String) :
      m.written (base ++ u) (u' ++ argument ++ v) ""
        = base ++ u ++ (m.text ++ "(") ++ u' ++ argument ++ v ++ ")" := by
    simp only [m.written_empty, String.append_assoc]
  have hhas : Marker.has.text ++ "(" = ":has(" := rfl
  have hhasText : Marker.hasText.text ++ "(" = ":hasText(" := rfl
  have hbase (base : String) : trimBlank base.toList = trimBlank (base ++ u).toList := by
    have h := trimBlank_toList_padded (u := "") rfl hu base
    rw [String.empty_append] at h
    exact h.symm
  refine ⟨fun s mode hs => behaveAlike_around hu hv hs mode, ?_, ?_⟩
  · intro base inner mode hnone hnone'
    have hleads : Marker.has.Leads (Marker.has.written base inner "") := by
      have hcount := Marker.hasText.count_written .has base inner ""
      have hpos := Marker.has.count_written .has base inner ""
      rw [(Marker.hasText.count_eq_zero_iff base).mpr hnone,
        (Marker.hasText.count_eq_zero_iff inner).mpr hnone', Marker.count_empty] at hcount
      rw [Marker.count_text_self] at hpos
      exact Marker.leads_has_iff.mpr ⟨hcount, by omega⟩
    have h : BehaveAlike mode _ _ := behaveAlike_inside hu hu' hv hleads
      (.has (hbase base) (trimBlank_toList_padded hu' hv inner).symm)
    rwa [Marker.written_empty, hpadded, hhas] at h
  · intro base argument
    have htest : TextTest.compile argument .substring
        = TextTest.compile (u' ++ argument ++ v) .substring := by
      rw [TextTest.compile, TextTest.compile, collapse_padded hu' hv]
    have h := behaveAlike_inside hu hu' hv (Marker.hasText_leads_written base argument)
      (.hasText (hbase base) htest)
    rwa [Marker.written_empty, hpadded, hhasText] at h

/-- Blanks of several scripts around a selector with a pattern, and around the parts of two
others that are refused and accepted. -/
theorem behaveAlike_padded_wide :
    isBlankText "\u2003\t" = true ∧ isBlankText "\n" = true ∧ isBlankText "\u00a0" = true ∧
      BehaveAlike .pattern "p:hasText( a|b)" "\u2003\tp:hasText( a|b)\u00a0" ∧
      BehaveAlike .pattern "div :has(p[)" "div \u2003\t:has(\np[\u00a0)" ∧
      BehaveAlike .substring "p:hasText(a  b)" "p\u2003\t:hasText(\na  b\u00a0)" := by
  have hu : isBlankText "\u2003\t" = true := by decide
  have hu' : isBlankText "\n" = true := by decide
  have hv : isBlankText "\u00a0" = true := by decide
  obtain ⟨haround, hhas, hhasText⟩ := behaveAlike_padded hu hu' hv
  exact ⟨hu, hu', hv, haround "p:hasText( a|b)" .pattern (by decide),
    hhas "div " "p[" .pattern (by decide) (by decide), hhasText "p" "a  b"⟩

end Padded

end BookCensus
