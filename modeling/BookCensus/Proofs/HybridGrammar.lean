import BookCensus.Selector.Hybrid
import BookCensus.Proofs.MarkerOccurrence

/-!
# The grammar of hybrid selectors

`Hybrid.parse` cuts a selector at the first occurrence of a marker, looks for a
second one behind it, and takes the parentheses off what is left.  The grammar
says which texts that reads, and as what, without any search:

* a text without `:has` is a base alone;
* a text in which `:hasText` stands once may be a base, the marker, an argument
  in parentheses and blanks;
* so may a text without `:hasText` in which `:has` stands once.

`Hybrid.Decomposes` is this grammar.  The main statement, `parse_iff_grammar`,
is that parsing succeeds exactly with the decomposition of a text, that there is
at most one, and that each refusal has exactly its own cause.

One marker is the beginning of the other, so it matters which of them *leads*:
`:hasText` where it stands at all, and `:has` only where `:hasText` does not.
-/

namespace BookCensus

open Text

namespace Text

/-! ## Blanks at the end -/

/-- Blanks at the end make no difference when they are dropped. -/
theorem dropBlankEnd_append (text : List Char) {w : List Char} (hw : w.all isBlank = true) :
    dropBlankEnd (text ++ w) = dropBlankEnd text := by
  have hrev : ∀ c ∈ w.reverse, isBlank c = true := by
    intro c hc
    exact List.all_eq_true.mp hw c (List.mem_reverse.mp hc)
  rw [dropBlankEnd, List.reverse_append, List.dropWhile_append_of_pos hrev, dropBlankEnd]

/-- Nothing is dropped behind a character that is no blank. -/
theorem dropBlankEnd_concat (text : List Char) {c : Char} (hc : isBlank c = false) :
    dropBlankEnd (text ++ [c]) = text ++ [c] := by
  rw [dropBlankEnd, List.reverse_append, List.reverse_singleton, List.singleton_append,
    List.dropWhile_cons_of_neg (by simp [hc]), List.reverse_cons, List.reverse_reverse]

/-- A text is what is kept of it and blanks. -/
theorem exists_blank_of_dropBlankEnd (text : List Char) :
    ∃ w, w.all isBlank = true ∧ text = dropBlankEnd text ++ w := by
  refine ⟨(text.reverse.takeWhile isBlank).reverse, ?_, ?_⟩
  · rw [List.all_reverse]
    exact List.all_takeWhile
  · rw [dropBlankEnd, ← List.reverse_append, List.takeWhile_append_dropWhile,
      List.reverse_reverse]

end Text

/-! ## Markers in a text -/

namespace Marker

/-- How often a marker stands in a text. -/
def count (m : Marker) (s : String) : Nat :=
  occurrences m.text.toList s.toList

/-- A marker that stands nowhere is no piece of the text. -/
theorem count_eq_zero_iff (m : Marker) (s : String) :
    m.count s = 0 ↔ ¬ m.text.toList <:+: s.toList := by
  rw [← occurrences_pos_iff, Nat.pos_iff_ne_zero, not_not]
  rfl

/-- The marker that decides how a text is read. -/
def Leads (s : String) : Marker → Prop
  | .hasText => 0 < Marker.hasText.count s
  | .has => Marker.hasText.count s = 0 ∧ 0 < Marker.has.count s

/-- A marker is a colon and letters. -/
theorem exists_letters (m : Marker) :
    ∃ letters, m.text.toList = ':' :: letters ∧ ':' ∉ letters := by
  cases m with
  | has => exact ⟨['h', 'a', 's'], rfl, by decide⟩
  | hasText => exact ⟨['h', 'a', 's', 'T', 'e', 'x', 't'], rfl, by decide⟩

/-- Every `:hasText` is a `:has`. -/
theorem count_hasText_le_count_has (s : String) : Marker.hasText.count s ≤ Marker.has.count s :=
  occurrences_le_of_prefix ⟨['T', 'e', 'x', 't'], rfl⟩

/-- A marker that leads stands there. -/
theorem Leads.count_pos {m : Marker} {s : String} (h : m.Leads s) : 0 < m.count s := by
  cases m with
  | has => exact h.2
  | hasText => exact h

/-- Some marker leads where `:has` stands. -/
theorem exists_leads_iff {s : String} : (∃ m : Marker, m.Leads s) ↔ Marker.has.count s ≠ 0 := by
  constructor
  · rintro ⟨m, hm⟩ hzero
    have hle := count_hasText_le_count_has s
    have hpos := hm.count_pos
    cases m <;> omega
  · intro h
    by_cases htext : Marker.hasText.count s = 0
    · exact ⟨.has, htext, Nat.pos_of_ne_zero h⟩
    · exact ⟨.hasText, Nat.pos_of_ne_zero htext⟩

/-- The longer marker leads wherever it stands. -/
theorem leads_hasText_iff {s : String} : Marker.hasText.Leads s ↔ 0 < Marker.hasText.count s :=
  Iff.rfl

/-- The shorter one leads where the longer one does not stand. -/
theorem leads_has_iff {s : String} :
    Marker.has.Leads s ↔ Marker.hasText.count s = 0 ∧ 0 < Marker.has.count s :=
  Iff.rfl

end Marker

namespace Hybrid

/-! ## Cutting at the marker that leads -/

/-- A selector without markers is not cut. -/
theorem cutMarker?_eq_none {s : String} (h : Marker.has.count s = 0) :
    cutMarker? s.toList = none := by
  have htext : Marker.hasText.count s = 0 := by
    have hle := Marker.count_hasText_le_count_has s
    omega
  rw [cutMarker?, cut?_eq_none_iff.mpr htext, cut?_eq_none_iff.mpr h]
  rfl

/-- A selector is cut at the marker that leads, as that marker cuts it. -/
theorem cutMarker?_of_leads {m : Marker} {s : String} (h : m.Leads s) :
    cutMarker? s.toList = (cut? m.text.toList s.toList).map fun (b, a) => (m, b, a) := by
  cases m with
  | has =>
      rw [cutMarker?, cut?_eq_none_iff.mpr h.1]
  | hasText =>
      rw [cutMarker?]
      cases hcut : cut? Marker.hasText.text.toList s.toList with
      | none => exact absurd (cut?_eq_none_iff.mp hcut) (Nat.ne_of_gt h)
      | some parts => rfl

/-- Where a marker leads there is something before it and something behind. -/
theorem exists_cut_of_leads {m : Marker} {s : String} (h : m.Leads s) :
    ∃ before after, cutMarker? s.toList = some (m, before, after) ∧
      s.toList = before ++ m.text.toList ++ after ∧
      m.count s = occurrences m.text.toList after + 1 := by
  obtain ⟨letters, htext, hcolon⟩ := m.exists_letters
  have hpos := h.count_pos
  cases hcut : cut? m.text.toList s.toList with
  | none => exact absurd (cut?_eq_none_iff.mp hcut) (Nat.ne_of_gt hpos)
  | some parts =>
      obtain ⟨before, after⟩ := parts
      refine ⟨before, after, ?_, eq_append_of_cut? hcut, ?_⟩
      · rw [cutMarker?_of_leads h, hcut]
        rfl
      · rw [Marker.count, htext]
        rw [htext] at hcut
        exact occurrences_of_cut? hcolon hcut

/-! ## The argument -/

/-- An argument is what stands between a parenthesis at the front and the last
one, with nothing but blanks behind it. -/
theorem argument?_eq_some_iff {rest inside : List Char} :
    argument? rest = some inside ↔
      ∃ w, w.all isBlank = true ∧ rest = '(' :: inside ++ ')' :: w := by
  constructor
  · intro h
    obtain ⟨w, hw, hrest⟩ := exists_blank_of_dropBlankEnd rest
    rw [argument?] at h
    split at h
    · next body hbody =>
        split at h
        · next hlast =>
            refine ⟨w, hw, ?_⟩
            obtain ⟨front, rfl⟩ := List.getLast?_eq_some_iff.mp hlast
            obtain rfl : front = inside := by simpa using h
            rw [hrest, hbody]
            simp
        · cases h
    · cases h
  · rintro ⟨w, hw, rfl⟩
    have hdrop : dropBlankEnd ('(' :: inside ++ ')' :: w) = '(' :: (inside ++ [')']) := by
      have hshape : '(' :: inside ++ ')' :: w = ('(' :: inside ++ [')']) ++ w := by simp
      rw [hshape, dropBlankEnd_append _ hw, dropBlankEnd_concat _ (by decide)]
      rfl
    rw [argument?, hdrop]
    simp

/-! ## What parsing gives in each case -/

/-- A marker closes a text into a base, an argument and the blanks behind it. -/
structure Closes (m : Marker) (s base argument w : String) : Prop where
  leads : m.Leads s
  once : m.count s = 1
  blank : isBlankText w = true
  written : s = base ++ m.text ++ "(" ++ argument ++ ")" ++ w

/-- The empty text is refused for being empty. -/
theorem parse_empty : parse "" = .error .empty := by
  rfl

/-- A text without markers is a structural selector. -/
theorem parse_plain {s : String} (hne : s ≠ "") (h : Marker.has.count s = 0) :
    parse s = .ok ⟨s, .none⟩ := by
  rw [parse, cutMarker?_eq_none h]
  simp [hne]

/-- A text with a marker is not empty. -/
theorem ne_empty_of_leads {m : Marker} {s : String} (h : m.Leads s) : s ≠ "" := by
  rintro rfl
  cases m with
  | has => exact absurd h.count_pos (by decide)
  | hasText => exact absurd h.count_pos (by decide)

/-- A marker that leads and is repeated is refused for that. -/
theorem parse_nested {m : Marker} {s : String} (h : m.Leads s) (htwice : 2 ≤ m.count s) :
    parse s = .error (.nested m) := by
  obtain ⟨before, after, hcut, -, hcount⟩ := exists_cut_of_leads h
  have hin : occursIn m.text.toList after = true := by
    rw [occursIn_iff, ← occurrences_pos_iff]
    omega
  rw [parse, hcut]
  simp [ne_empty_of_leads h, hin]

/-- Where a marker leads and stands once, the rest must be its argument. -/
theorem parse_of_once {m : Marker} {s : String} {before after : List Char} (h : m.Leads s)
    (hcut : cutMarker? s.toList = some (m, before, after))
    (hcount : occurrences m.text.toList after = 0) :
    parse s = match argument? after with
      | none => .error (.missingArgument m)
      | some argument => .ok ⟨String.ofList before, m.operator (String.ofList argument)⟩ := by
  have hnot : ¬ occursIn m.text.toList after = true := by
    rw [occursIn_iff, ← occurrences_pos_iff]
    omega
  rw [parse, hcut]
  cases hargument : argument? after with
  | none => simp [ne_empty_of_leads h, hnot, hargument]
  | some argument => simp [ne_empty_of_leads h, hnot, hargument]

/-- A marker with its argument in parentheses is read as its operator. -/
theorem parse_closed {m : Marker} {s base argument w : String} (h : Closes m s base argument w) :
    parse s = .ok ⟨base, m.operator argument⟩ := by
  let after := '(' :: argument.toList ++ ')' :: w.toList
  have hlist : s.toList = base.toList ++ m.text.toList ++ after := by
    rw [h.written]
    simp [after]
  have honce : occurrences m.text.toList (base.toList ++ m.text.toList ++ after) = 1 := by
    rw [← hlist]
    exact h.once
  have hcut : cutMarker? s.toList = some (m, base.toList, after) := by
    rw [cutMarker?_of_leads h.leads, hlist, cut?_of_occurrences_eq_one honce]
    rfl
  have hcount : occurrences m.text.toList after = 0 := by
    obtain ⟨before, rest, hcut', -, hsum⟩ := exists_cut_of_leads h.leads
    rw [hcut] at hcut'
    cases hcut'
    have hone := h.once
    omega
  have hargument : argument? after = some argument.toList :=
    argument?_eq_some_iff.mpr ⟨w.toList, h.blank, rfl⟩
  rw [parse_of_once h.leads hcut hcount, hargument]
  simp [String.ofList_toList]

/-- A marker without an argument in parentheses is refused for that. -/
theorem parse_unclosed {m : Marker} {s : String} (h : m.Leads s) (honce : m.count s = 1)
    (hno : ¬ ∃ base argument w, Closes m s base argument w) :
    parse s = .error (.missingArgument m) := by
  obtain ⟨before, after, hcut, hlist, hsum⟩ := exists_cut_of_leads h
  rw [parse_of_once h hcut (by omega)]
  cases hargument : argument? after with
  | none => rfl
  | some inside =>
      obtain ⟨w, hw, rfl⟩ := argument?_eq_some_iff.mp hargument
      refine absurd ⟨String.ofList before, String.ofList inside, String.ofList w,
        h, honce, ?_, ?_⟩ hno
      · rw [isBlankText, String.toList_ofList]
        exact hw
      · rw [← String.toList_inj, hlist]
        simp [String.toList_ofList]

/-- How reading a text ends: it is empty, or has no marker, or has one that leads.
That one stands there more than once, or once and closes the text, or once
without closing it. -/
inductive Outcome (s : String) : Except SelectorError Hybrid → Prop
  | empty (h : s = "") : Outcome s (.error .empty)
  | plain (hne : s ≠ "") (h : Marker.has.count s = 0) : Outcome s (.ok ⟨s, .none⟩)
  | nested {m : Marker} (hm : m.Leads s) (h : 2 ≤ m.count s) : Outcome s (.error (.nested m))
  | closed {m : Marker} {base argument w : String} (h : Closes m s base argument w) :
      Outcome s (.ok ⟨base, m.operator argument⟩)
  | unclosed {m : Marker} (hm : m.Leads s) (h : m.count s = 1)
      (hno : ¬ ∃ base argument w, Closes m s base argument w) :
      Outcome s (.error (.missingArgument m))

/-- **All cases.**  Parsing ends in one of these ways. -/
theorem outcome_parse (s : String) : Outcome s (parse s) := by
  by_cases hempty : s = ""
  · subst hempty
    exact .empty rfl
  by_cases hplain : Marker.has.count s = 0
  · rw [parse_plain hempty hplain]
    exact .plain hempty hplain
  obtain ⟨m, hm⟩ := Marker.exists_leads_iff.mpr hplain
  have hpos := hm.count_pos
  by_cases htwice : 2 ≤ m.count s
  · rw [parse_nested hm htwice]
    exact .nested hm htwice
  have honce : m.count s = 1 := by omega
  by_cases hclosed : ∃ base argument w, Closes m s base argument w
  · obtain ⟨base, argument, w, h⟩ := hclosed
    rw [parse_closed h]
    exact .closed h
  · rw [parse_unclosed hm honce hclosed]
    exact .unclosed hm honce hclosed

/-- What parsing gives ends it in one of these ways. -/
theorem outcome_of_parse {s : String} {r : Except SelectorError Hybrid} (h : parse s = r) :
    Outcome s r :=
  h ▸ outcome_parse s

/-! ## The grammar -/

/-- The grammar: what a text is read as, and the blanks behind it. -/
def Decomposes (s w : String) (h : Hybrid) : Prop :=
  match h.operator with
  | .none => s ≠ "" ∧ Marker.has.count s = 0 ∧ s = h.base ∧ w = ""
  | .hasText pattern =>
      Marker.hasText.count s = 1 ∧ isBlankText w = true ∧
        s = h.base ++ ":hasText" ++ "(" ++ pattern ++ ")" ++ w
  | .has inner =>
      Marker.hasText.count s = 0 ∧ Marker.has.count s = 1 ∧ isBlankText w = true ∧
        s = h.base ++ ":has" ++ "(" ++ inner ++ ")" ++ w

/-- A marker that closes a text decomposes it. -/
theorem decomposes_operator_iff {m : Marker} {s base argument w : String} :
    Decomposes s w ⟨base, m.operator argument⟩ ↔ Closes m s base argument w := by
  cases m with
  | hasText =>
      constructor
      · rintro ⟨honce, hblank, hs⟩
        exact ⟨Marker.leads_hasText_iff.mpr (by omega), honce, hblank, hs⟩
      · rintro ⟨-, honce, hblank, hs⟩
        exact ⟨honce, hblank, hs⟩
  | has =>
      constructor
      · rintro ⟨hnone, honce, hblank, hs⟩
        exact ⟨Marker.leads_has_iff.mpr ⟨hnone, by omega⟩, honce, hblank, hs⟩
      · rintro ⟨hleads, honce, hblank, hs⟩
        exact ⟨(Marker.leads_has_iff.mp hleads).1, honce, hblank, hs⟩

/-- What the grammar says is what parsing gives. -/
theorem parse_of_decomposes {s w : String} {h : Hybrid} (hd : Decomposes s w h) :
    parse s = .ok h := by
  obtain ⟨base, operator⟩ := h
  cases operator with
  | none =>
      obtain ⟨hne, hcount, rfl, -⟩ := hd
      exact parse_plain hne hcount
  | has inner => exact parse_closed (m := .has) (decomposes_operator_iff.mp hd)
  | hasText pattern => exact parse_closed (m := .hasText) (decomposes_operator_iff.mp hd)

/-- What parsing gives is what the grammar says. -/
theorem exists_decomposes_of_parse {s : String} {h : Hybrid} (hparse : parse s = .ok h) :
    ∃ w, Decomposes s w h := by
  cases outcome_of_parse hparse with
  | plain hne hcount => exact ⟨"", hne, hcount, rfl, rfl⟩
  | closed hclosed => exact ⟨_, decomposes_operator_iff.mpr hclosed⟩

/-- Parsing succeeds exactly with what the grammar says. -/
theorem parse_eq_ok_iff {s : String} {h : Hybrid} :
    parse s = .ok h ↔ ∃ w, Decomposes s w h :=
  ⟨exists_decomposes_of_parse, fun ⟨_, hd⟩ => parse_of_decomposes hd⟩

/-- The blanks behind a selector are what its written form leaves of the text. -/
theorem Decomposes.blank_unique {s w w' : String} {h : Hybrid} (hd : Decomposes s w h)
    (hd' : Decomposes s w' h) : w = w' := by
  obtain ⟨base, operator⟩ := h
  cases operator with
  | none => exact hd.2.2.2.trans hd'.2.2.2.symm
  | has inner =>
      have heq := hd.2.2.2.symm.trans hd'.2.2.2
      simpa [← String.toList_inj] using heq
  | hasText pattern =>
      have heq := hd.2.2.symm.trans hd'.2.2
      simpa [← String.toList_inj] using heq

/-- **Unique decomposition.** -/
theorem Decomposes.unique {s w w' : String} {h h' : Hybrid} (hd : Decomposes s w h)
    (hd' : Decomposes s w' h') : h = h' ∧ w = w' := by
  have hok : Except.ok h = Except.ok h' :=
    (parse_of_decomposes hd).symm.trans (parse_of_decomposes hd')
  obtain rfl : h = h' := Except.ok.inj hok
  exact ⟨rfl, hd.blank_unique hd'⟩

/-! ## Refusals -/

/-- Only the empty text is refused for being empty. -/
theorem parse_eq_empty_iff {s : String} : parse s = .error .empty ↔ s = "" := by
  constructor
  · intro hparse
    cases outcome_of_parse hparse with
    | empty h => exact h
  · rintro rfl
    exact parse_empty

/-- A selector is nested when the marker that leads stands there more than once. -/
theorem parse_eq_nested_iff {s : String} {m : Marker} :
    parse s = .error (.nested m) ↔ m.Leads s ∧ 2 ≤ m.count s := by
  constructor
  · intro hparse
    cases outcome_of_parse hparse with
    | nested hm h => exact ⟨hm, h⟩
  · rintro ⟨hm, h⟩
    exact parse_nested hm h

/-- An argument is missing when the marker that leads stands there once and the
grammar does not read the text. -/
theorem parse_eq_missingArgument_iff {s : String} {m : Marker} :
    parse s = .error (.missingArgument m) ↔
      m.Leads s ∧ m.count s = 1 ∧ ¬ ∃ h w, Decomposes s w h := by
  constructor
  · intro hparse
    cases outcome_of_parse hparse with
    | unclosed hm honce hno =>
        refine ⟨hm, honce, ?_⟩
        rintro ⟨h, w, hd⟩
        rw [parse_of_decomposes hd] at hparse
        cases hparse
  · rintro ⟨hm, honce, hno⟩
    apply parse_unclosed hm honce
    rintro ⟨base, argument, w, hclosed⟩
    exact hno ⟨_, w, decomposes_operator_iff.mpr hclosed⟩

/-- **The grammar of hybrid selectors.**  A text is empty exactly when it is refused
as that.  It is read as a base alone exactly when it has no `:has`; with an
operator exactly when that operator's marker stands there once (for `:has`,
without any `:hasText`) and is followed by a parenthesized argument and blanks
to the end; and in at most one way.  It is nested exactly when `:hasText`, or
without that `:has`, stands there twice or more.  In all other cases the marker
that leads misses its argument. -/
theorem parse_iff_grammar (s : String) :
    (parse s = .error .empty ↔ s = "") ∧
    (∀ base, parse s = .ok ⟨base, .none⟩ ↔
      s ≠ "" ∧ ¬ ":has".toList <:+: s.toList ∧ base = s) ∧
    (∀ base pattern, parse s = .ok ⟨base, .hasText pattern⟩ ↔
      Marker.hasText.count s = 1 ∧
        ∃ w, isBlankText w = true ∧ s = base ++ ":hasText" ++ "(" ++ pattern ++ ")" ++ w) ∧
    (∀ base inner, parse s = .ok ⟨base, .has inner⟩ ↔
      ¬ ":hasText".toList <:+: s.toList ∧ Marker.has.count s = 1 ∧
        ∃ w, isBlankText w = true ∧ s = base ++ ":has" ++ "(" ++ inner ++ ")" ++ w) ∧
    (∀ h w h' w', Decomposes s w h → Decomposes s w' h' → h = h' ∧ w = w') ∧
    (parse s = .error (.nested .hasText) ↔ 2 ≤ Marker.hasText.count s) ∧
    (parse s = .error (.nested .has) ↔
      ¬ ":hasText".toList <:+: s.toList ∧ 2 ≤ Marker.has.count s) ∧
    (s = "" ∨ (∃ h w, Decomposes s w h) ∨ 2 ≤ Marker.hasText.count s ∨
      (¬ ":hasText".toList <:+: s.toList ∧ 2 ≤ Marker.has.count s) ∨
      ∃ m : Marker, m.Leads s ∧ parse s = .error (.missingArgument m)) ∧
    (∀ m, parse s = .error (.missingArgument m) ↔
      m.Leads s ∧ m.count s = 1 ∧ ¬ ∃ h w, Decomposes s w h) := by
  have hhas : ¬ ":has".toList <:+: s.toList ↔ Marker.has.count s = 0 :=
    (Marker.has.count_eq_zero_iff s).symm
  have hhasText : ¬ ":hasText".toList <:+: s.toList ↔ Marker.hasText.count s = 0 :=
    (Marker.hasText.count_eq_zero_iff s).symm
  rw [hhas, hhasText]
  refine ⟨parse_eq_empty_iff, ?_, ?_, ?_, fun h w h' w' hd hd' => hd.unique hd', ?_, ?_, ?_,
    fun m => parse_eq_missingArgument_iff⟩
  · intro base
    rw [parse_eq_ok_iff]
    constructor
    · rintro ⟨w, hne, hcount, hbase, -⟩
      exact ⟨hne, hcount, hbase.symm⟩
    · rintro ⟨hne, hcount, rfl⟩
      exact ⟨"", hne, hcount, rfl, rfl⟩
  · intro base pattern
    rw [parse_eq_ok_iff]
    constructor
    · rintro ⟨w, honce, hblank, hs⟩
      exact ⟨honce, w, hblank, hs⟩
    · rintro ⟨honce, w, hblank, hs⟩
      exact ⟨w, honce, hblank, hs⟩
  · intro base inner
    rw [parse_eq_ok_iff]
    constructor
    · rintro ⟨w, hnone, honce, hblank, hs⟩
      exact ⟨hnone, honce, w, hblank, hs⟩
    · rintro ⟨hnone, honce, w, hblank, hs⟩
      exact ⟨w, hnone, honce, hblank, hs⟩
  -- a marker that stands there twice stands there, so that it leads goes without saying
  · rw [parse_eq_nested_iff, Marker.leads_hasText_iff]
    omega
  · rw [parse_eq_nested_iff, Marker.leads_has_iff]
    omega
  · cases hparse : parse s with
    | ok h => exact Or.inr (Or.inl ⟨h, parse_eq_ok_iff.mp hparse⟩)
    | error e =>
        cases outcome_of_parse hparse with
        | empty h => exact Or.inl h
        | @nested m hm h =>
            cases m with
            | hasText => exact Or.inr (Or.inr (Or.inl h))
            | has => exact Or.inr (Or.inr (Or.inr (Or.inl ⟨hm.1, h⟩)))
        | @unclosed m hm h hno => exact Or.inr (Or.inr (Or.inr (Or.inr ⟨m, hm, rfl⟩)))

/-- An argument runs to the last parenthesis, whatever stands in it. -/
example : parse "p:has(a[b=\"(\"]) " = .ok ⟨"p", .has "a[b=\"(\"]"⟩ := by decide

end Hybrid

end BookCensus
