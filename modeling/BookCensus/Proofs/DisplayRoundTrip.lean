import BookCensus.Proofs.HybridGrammar

/-!
# Reading what was written

`Hybrid.display` writes a base, a marker and an argument in parentheses one after
the other.  No occurrence of a marker can lie across one of the seams, because a
marker has its colon only at the front and no parenthesis at all; so the markers
in the written form are those of the base, the one that was written, and those of
the argument (`Marker.count_written`).

From this follows which hybrids are read back from what they are written as, and
that every text that is read is written back up to the blanks behind it.  The
main statement is `display_parse_inverse`.
-/

namespace BookCensus

open Text

namespace Marker

/-- How a marker is written with a base before it, an argument behind it and more
behind that. -/
def written (m : Marker) (base argument rest : String) : String :=
  base ++ m.text ++ "(" ++ argument ++ ")" ++ rest

/-- The characters of a written operator. -/
theorem toList_written (m : Marker) (base argument rest : String) :
    (m.written base argument rest).toList
      = base.toList ++ m.text.toList ++ '(' :: argument.toList ++ ')' :: rest.toList := by
  simp [written]

/-- There is no parenthesis in a marker. -/
theorem parenthesis_notMem_text (m : Marker) :
    '(' ∉ m.text.toList ∧ ')' ∉ m.text.toList := by
  cases m <;> decide

/-- A parenthesis in front adds no occurrence. -/
theorem occurrences_parenthesis (n : Marker) {c : Char} (hc : c = '(' ∨ c = ')')
    (cs : List Char) :
    occurrences n.text.toList (c :: cs) = occurrences n.text.toList cs := by
  obtain ⟨letters, htext, -⟩ := n.exists_letters
  have hskip : ':' ∉ [c] := by rcases hc with rfl | rfl <;> decide
  rw [htext]
  exact occurrences_append_of_notMem hskip cs

/-- **Markers in a written form.**  They are those of its pieces. -/
theorem count_written (n m : Marker) (base argument rest : String) :
    n.count (m.written base argument rest)
      = n.count base + n.count m.text + n.count argument + n.count rest := by
  obtain ⟨letters, htext, hcolon⟩ := n.exists_letters
  obtain ⟨letters', htext', -⟩ := m.exists_letters
  have hopen : '(' ∉ letters := fun h =>
    n.parenthesis_notMem_text.1 (htext ▸ List.mem_cons_of_mem _ h)
  have hclose : ')' ∉ letters := fun h =>
    n.parenthesis_notMem_text.2 (htext ▸ List.mem_cons_of_mem _ h)
  have hbase := occurrences_append_cons (c := ':') hcolon base.toList letters'
  rw [← htext, ← htext'] at hbase
  rw [count, toList_written, htext, occurrences_append_cons hclose, occurrences_append_cons hopen,
    ← htext, n.occurrences_parenthesis (Or.inl rfl), n.occurrences_parenthesis (Or.inr rfl), hbase]
  rfl

/-- A marker occurs once in itself. -/
theorem count_text_self (m : Marker) : m.count m.text = 1 := by
  cases m <;> decide

/-- No marker occurs in the empty text. -/
theorem count_empty (m : Marker) : m.count "" = 0 := by
  cases m <;> decide

/-- A marker that stands neither in the base nor in the argument leads the written
form. -/
theorem leads_written {m : Marker} {base argument : String} (hbase : m.count base = 0)
    (hargument : m.count argument = 0) : m.Leads (m.written base argument "") := by
  have hself : m.count (m.written base argument "") = 1 := by
    rw [count_written, count_text_self, count_empty, hbase, hargument]
  cases m with
  | hasText => exact leads_hasText_iff.mpr (by omega)
  | has =>
      refine leads_has_iff.mpr ⟨?_, by omega⟩
      have hmarker : Marker.hasText.count Marker.has.text = 0 := by decide
      have hle := count_hasText_le_count_has base
      have hle' := count_hasText_le_count_has argument
      rw [count_written, count_empty]
      omega

end Marker

namespace Hybrid

/-- An operator is written as its marker with the argument in parentheses. -/
theorem display_operator (m : Marker) (base argument : String) :
    display ⟨base, m.operator argument⟩ = m.written base argument "" := by
  cases m <;> simp [display, Marker.operator, Marker.written]

/-- A text that a marker closes is a written form, with no further occurrence of
the marker in its base and argument. -/
theorem Closes.count_eq_zero {m : Marker} {s base argument w : String}
    (h : Closes m s base argument w) : m.count base = 0 ∧ m.count argument = 0 := by
  have honce : m.count (m.written base argument w) = 1 := by
    rw [Marker.written, ← h.written]
    exact h.once
  rw [Marker.count_written, Marker.count_text_self] at honce
  omega

/-- Dropping the blanks behind a text that a marker closes leaves the written
form. -/
theorem Closes.display_eq {m : Marker} {s base argument w : String}
    (h : Closes m s base argument w) :
    display ⟨base, m.operator argument⟩ = String.ofList (dropBlankEnd s.toList) := by
  have hclosed : (m.written base argument "").toList
      = base.toList ++ m.text.toList ++ '(' :: argument.toList ++ [')'] := by
    simp [Marker.toList_written]
  have hs : s.toList = (m.written base argument "").toList ++ w.toList := by
    rw [h.written, hclosed]
    simp
  rw [display_operator, hs, dropBlankEnd_append _ h.blank, hclosed,
    dropBlankEnd_concat _ (by decide), ← hclosed, String.ofList_toList]

/-- **Reading an operator back.**  A written operator is read as itself exactly
when its marker stands neither in the base nor in the argument. -/
theorem parse_display_operator_iff (m : Marker) (base argument : String) :
    parse (display ⟨base, m.operator argument⟩) = .ok ⟨base, m.operator argument⟩ ↔
      m.count base = 0 ∧ m.count argument = 0 := by
  rw [parse_eq_ok_iff]
  constructor
  · rintro ⟨w, hd⟩
    exact (decomposes_operator_iff.mp hd).count_eq_zero
  · rintro ⟨hbase, hargument⟩
    refine ⟨"", decomposes_operator_iff.mpr ⟨?_, ?_, rfl, ?_⟩⟩
    · rw [display_operator]
      exact Marker.leads_written hbase hargument
    · rw [display_operator, Marker.count_written, Marker.count_text_self, Marker.count_empty,
        hbase, hargument]
    · rw [display_operator, Marker.written]

/-- A base is read as itself when it is not empty and has no marker. -/
theorem parse_display_none_iff (base : String) :
    parse (display ⟨base, .none⟩) = .ok ⟨base, .none⟩ ↔
      base ≠ "" ∧ Marker.has.count base = 0 := by
  rw [parse_eq_ok_iff]
  constructor
  · rintro ⟨w, hne, hcount, -, -⟩
    exact ⟨hne, hcount⟩
  · rintro ⟨hne, hcount⟩
    exact ⟨"", hne, hcount, rfl, rfl⟩

/-- **Writing what was read.**  A hybrid that a text was read as is written as the
text: as it stands without an operator, and without the blanks at its end with
one.  It is read back from that. -/
theorem display_of_parse {s : String} {h : Hybrid} (hparse : parse s = .ok h) :
    h.display = (if h.operator = .none then s else String.ofList (dropBlankEnd s.toList)) ∧
      parse h.display = .ok h := by
  cases outcome_of_parse hparse with
  | plain hne hcount =>
      exact ⟨(if_pos rfl).symm, hparse⟩
  | @closed m base argument w hclosed =>
      have hoperator : m.operator argument ≠ .none := by cases m <;> exact nofun
      refine ⟨?_, (parse_display_operator_iff m base argument).mpr hclosed.count_eq_zero⟩
      rw [if_neg hoperator]
      exact hclosed.display_eq

/-- **Reading and writing are inverse.**  What a text is read as is written as that
text, short of blanks behind an operator, and read back from what is written.  And
a hybrid is read back from what it is written as exactly when it is a base that is
not empty and has no `:has` in it, or has an operator and no occurrence of that
operator's marker in base and argument. -/
theorem display_parse_inverse :
    (∀ s h, parse s = .ok h →
      h.display = (if h.operator = .none then s else String.ofList (dropBlankEnd s.toList)) ∧
        parse h.display = .ok h) ∧
    (∀ base, parse (display ⟨base, .none⟩) = .ok ⟨base, .none⟩ ↔
      base ≠ "" ∧ ¬ ":has".toList <:+: base.toList) ∧
    (∀ base inner, parse (display ⟨base, .has inner⟩) = .ok ⟨base, .has inner⟩ ↔
      ¬ ":has".toList <:+: base.toList ∧ ¬ ":has".toList <:+: inner.toList) ∧
    (∀ base pattern, parse (display ⟨base, .hasText pattern⟩) = .ok ⟨base, .hasText pattern⟩ ↔
      ¬ ":hasText".toList <:+: base.toList ∧ ¬ ":hasText".toList <:+: pattern.toList) := by
  refine ⟨fun s h hparse => display_of_parse hparse, ?_, ?_, ?_⟩
  · intro base
    rw [parse_display_none_iff, Marker.count_eq_zero_iff]
    rfl
  · intro base inner
    have h := parse_display_operator_iff .has base inner
    rw [Marker.count_eq_zero_iff, Marker.count_eq_zero_iff] at h
    exact h
  · intro base pattern
    have h := parse_display_operator_iff .hasText base pattern
    rw [Marker.count_eq_zero_iff, Marker.count_eq_zero_iff] at h
    exact h

/-- Blanks behind the parenthesis are not written back. -/
theorem display_parse_inverse_trailing :
    parse "p:has(a)\n " = .ok ⟨"p", .has "a"⟩ ∧
      (display ⟨"p", .has "a"⟩ = String.ofList (dropBlankEnd "p:has(a)\n ".toList) ∧
        parse (display ⟨"p", .has "a"⟩) = .ok ⟨"p", .has "a"⟩) := by
  have hparse : parse "p:has(a)\n " = .ok ⟨"p", .has "a"⟩ := by decide
  exact ⟨hparse, display_parse_inverse.1 _ _ hparse⟩

end Hybrid

end BookCensus
