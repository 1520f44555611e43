import BookCensus.Proofs.DisplayRoundTrip

/-!
# Markers that stand more than once

Every `:hasText` is a `:has` as well, so the two markers are told apart before they are
counted: a `:has` is *lone* when no `:hasText` begins there (`Marker.loneHas`).

Only the marker that leads may not be repeated.  That is `:hasText` where it stands at all,
and a lone `:has` where it does not (`parse_repeated`).  So every selector that is read has at
most one `:hasText`, which is its operator; and in front of that operator and inside its
argument there may be any number of lone `:has`, as part of the structural selector and of the
text that is looked for.
-/

namespace BookCensus

open Text

namespace Text

/-- At how many positions of `text` the text `part` stands and `longer` does not. -/
def occurrencesBut (part longer text : List Char) : Nat :=
  text.tails.countP fun rest => part.isPrefixOf rest && !longer.isPrefixOf rest

/-- Where a longer text begins with a shorter one, the occurrences of the shorter one are
those inside an occurrence of the longer one and the others. -/
theorem occurrences_eq_occurrencesBut_add {part longer : List Char} (h : part <+: longer)
    (text : List Char) :
    occurrences part text = occurrencesBut part longer text + occurrences longer text := by
  have hinside : ∀ rest : List Char,
      (part.isPrefixOf rest && longer.isPrefixOf rest) = longer.isPrefixOf rest := by
    intro rest
    rw [Bool.and_eq_right_iff_imp, List.isPrefixOf_iff_prefix, List.isPrefixOf_iff_prefix]
    exact h.trans
  unfold occurrences occurrencesBut
  rw [List.countP_eq_countP_filter_add _ _ longer.isPrefixOf, List.countP_filter,
    List.countP_filter, Nat.add_comm]
  simp only [hinside]

end Text

namespace Marker

/-- How often `:has` stands in a text without being the beginning of a `:hasText`. -/
def loneHas (s : String) : Nat :=
  occurrencesBut Marker.has.text.toList Marker.hasText.text.toList s.toList

/-- Every `:hasText` is an occurrence of `:has`, and the others are lone. -/
theorem count_has_eq (s : String) :
    Marker.has.count s = loneHas s + Marker.hasText.count s :=
  occurrences_eq_occurrencesBut_add ⟨['T', 'e', 'x', 't'], rfl⟩ s.toList

end Marker

namespace Hybrid

/-- The argument of the operator; empty without an operator. -/
def argument (h : Hybrid) : String :=
  match h.operator with
  | .none => ""
  | .has inner => inner
  | .hasText pattern => pattern

/-- The argument of an operator is what the marker was given. -/
theorem argument_operator (m : Marker) (base text : String) :
    argument ⟨base, m.operator text⟩ = text := by
  cases m <;> rfl

variable {s : String} {h : Hybrid}

/-- What is nested is a marker that leads and is repeated. -/
theorem repeated_of_parse_nested {m : Marker} (hparse : parse s = .error (.nested m)) :
    2 ≤ Marker.hasText.count s ∨ Marker.hasText.count s = 0 ∧ 2 ≤ Marker.loneHas s := by
  obtain ⟨hleads, htwice⟩ := parse_eq_nested_iff.mp hparse
  cases m with
  | hasText => exact Or.inl htwice
  | has =>
      have hsplit := Marker.count_has_eq s
      have hnone : Marker.hasText.count s = 0 := hleads.1
      exact Or.inr ⟨hnone, by omega⟩

/-- Where `:hasText` stands it leads, so it may not be repeated. -/
theorem parse_of_repeated_hasText (h : 2 ≤ Marker.hasText.count s) :
    parse s = .error (.nested .hasText) := by
  apply parse_nested _ h
  exact Marker.leads_hasText_iff.mpr (by omega)

/-- Where it does not stand, every `:has` is lone and may not be repeated. -/
theorem parse_of_repeated_has (hnone : Marker.hasText.count s = 0)
    (h : 2 ≤ Marker.loneHas s) : parse s = .error (.nested .has) := by
  have hsplit := Marker.count_has_eq s
  apply parse_nested _ (by omega)
  exact Marker.leads_has_iff.mpr ⟨hnone, by omega⟩

/-- The markers of a selector that is read: at most one `:hasText`, and lone `:has` more than
once only where that is the operator. -/
theorem count_le_one_of_parse (hparse : parse s = .ok h) :
    Marker.hasText.count s ≤ 1 ∧
      (Marker.loneHas s ≤ 1 ∨ ∃ pattern, h.operator = .hasText pattern) := by
  have hsplit := Marker.count_has_eq s
  cases outcome_of_parse hparse with
  | plain hne hcount => exact ⟨by omega, Or.inl (by omega)⟩
  | @closed m base text w hclosed =>
      have honce := hclosed.once
      cases m with
      | hasText => exact ⟨Nat.le_of_eq honce, Or.inr ⟨text, rfl⟩⟩
      | has =>
          have hnone : Marker.hasText.count s = 0 := hclosed.leads.1
          exact ⟨by omega, Or.inl (by omega)⟩

/-- The base and the argument of a selector that is read have no `:hasText`, and lone `:has`
only where the operator is the other one. -/
theorem count_parts_of_parse (hparse : parse s = .ok h) :
    Marker.hasText.count h.base = 0 ∧ Marker.hasText.count h.argument = 0 ∧
      (Marker.loneHas h.base + Marker.loneHas h.argument = 0 ∨
        ∃ pattern, h.operator = .hasText pattern) := by
  cases outcome_of_parse hparse with
  | plain hne hcount =>
      have hsplit := Marker.count_has_eq s
      have hnone : Marker.hasText.count s = 0 := by omega
      have hlone : Marker.loneHas s = 0 := by omega
      have hempty : Marker.loneHas "" = 0 := by decide
      refine ⟨hnone, Marker.hasText.count_empty, Or.inl ?_⟩
      change Marker.loneHas s + Marker.loneHas "" = 0
      omega
  | @closed m base text w hclosed =>
      obtain ⟨hbase, htext⟩ := hclosed.count_eq_zero
      rw [argument_operator]
      cases m with
      | hasText => exact ⟨hbase, htext, Or.inr ⟨text, rfl⟩⟩
      | has =>
          have hsplitBase := Marker.count_has_eq base
          have hsplitText := Marker.count_has_eq text
          have hnone : Marker.hasText.count base = 0 := by omega
          have hlone : Marker.loneHas base + Marker.loneHas text = 0 := by omega
          exact ⟨hnone, by omega, Or.inl hlone⟩

/-- **Repeated markers.**  A selector in which `:hasText` stands twice is refused for it, and
so is one without `:hasText` in which `:has` stands twice; no other selector is refused as
nested.  Hence a selector that is read has one `:hasText` at most, and none in its base and
argument; it has one lone `:has` at most, and none in its base and argument, unless its
operator is `:hasText`.  Under that operator every base and every argument without `:hasText`
is read, whatever lone `:has` they have. -/
theorem parse_repeated :
    (∀ s, 2 ≤ Marker.hasText.count s → parse s = .error (.nested .hasText)) ∧
    (∀ s, Marker.hasText.count s = 0 → 2 ≤ Marker.loneHas s →
      parse s = .error (.nested .has)) ∧
    (∀ s m, parse s = .error (.nested m) →
      2 ≤ Marker.hasText.count s ∨ Marker.hasText.count s = 0 ∧ 2 ≤ Marker.loneHas s) ∧
    (∀ s h, parse s = .ok h →
      (Marker.hasText.count s ≤ 1 ∧
        (Marker.loneHas s ≤ 1 ∨ ∃ pattern, h.operator = .hasText pattern)) ∧
      Marker.hasText.count h.base = 0 ∧ Marker.hasText.count h.argument = 0 ∧
      (Marker.loneHas h.base + Marker.loneHas h.argument = 0 ∨
        ∃ pattern, h.operator = .hasText pattern)) ∧
    (∀ base pattern, Marker.hasText.count base = 0 → Marker.hasText.count pattern = 0 →
      parse (display ⟨base, .hasText pattern⟩) = .ok ⟨base, .hasText pattern⟩) := by
  refine ⟨fun s => parse_of_repeated_hasText, fun s => parse_of_repeated_has,
    fun s m => repeated_of_parse_nested, ?_, ?_⟩
  · intro s h hparse
    exact ⟨count_le_one_of_parse hparse, count_parts_of_parse hparse⟩
  · intro base pattern hbase hpattern
    exact (parse_display_operator_iff .hasText base pattern).mpr ⟨hbase, hpattern⟩

/-- Two lone `:has` are too many by themselves, and go through in front of a `:hasText`. -/
theorem parse_repeated_mixed :
    (Marker.hasText.count "p:has(a):has(b)" = 0 ∧ 2 ≤ Marker.loneHas "p:has(a):has(b)" ∧
      parse "p:has(a):has(b)" = .error (.nested .has)) ∧
    (Marker.hasText.count "p:has(a):has(b)" = 0 ∧ Marker.hasText.count "c:has" = 0 ∧
      parse "p:has(a):has(b):hasText(c:has)" = .ok ⟨"p:has(a):has(b)", .hasText "c:has"⟩) := by
  obtain ⟨-, hlone, -, -, hread⟩ := parse_repeated
  have hnone : Marker.hasText.count "p:has(a):has(b)" = 0 := by decide
  have htwo : 2 ≤ Marker.loneHas "p:has(a):has(b)" := by decide
  have hargument : Marker.hasText.count "c:has" = 0 := by decide
  exact ⟨⟨hnone, htwo, hlone _ hnone htwo⟩, hnone, hargument, hread _ _ hnone hargument⟩

/-- A marker that stands twice need not be refused: `:has` is not counted where there is a
`:hasText`. -/
theorem not_forall_nested_of_repeated :
    ¬ ∀ s, 2 ≤ Marker.hasText.count s ∨ 2 ≤ Marker.loneHas s →
      ∃ m, parse s = .error (.nested m) := by
  intro h
  have htwo : 2 ≤ Marker.loneHas "p:has(a):has(b):hasText(c)" := by decide
  have hparse : parse "p:has(a):has(b):hasText(c)" = .ok ⟨"p:has(a):has(b)", .hasText "c"⟩ := by
    decide
  obtain ⟨m, hm⟩ := h "p:has(a):has(b):hasText(c)" (Or.inr htwo)
  rw [hparse] at hm
  cases hm

end Hybrid

end BookCensus
