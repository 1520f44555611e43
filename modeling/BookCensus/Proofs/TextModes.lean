import BookCensus.Proofs.OpaqueArguments
import BookCensus.Proofs.PlainPatterns

/-!
# One argument in both modes

The argument of `:hasText` is taken for a piece of text, which is looked for letter by letter,
or for a pattern, which is read, checked and looked for by moving sets of places.  The mode
decides nothing else: base and argument are cut apart and the base is read before it matters
(`Plan.parse_hasTextSelector_cases`).

Where no sign of patterns stands in the argument and its blanks are single spaces between
words, both mean the same.  The pattern describes just the argument, and the piece of text is
the argument as it stands.  Only the size of a pattern is limited, that of a piece is not.

The main statement is `hasText_modes_agree`.
-/

namespace BookCensus

open Text Document

/-- Plans that match the same count the same in every document. -/
theorem Plan.SameMatches.scan_eq {plan plan' : Plan} (h : plan.SameMatches plan') (tree : Tree) :
    plan.scan tree = plan'.scan tree := by
  have hsection : plan.scanSection? = plan'.scanSection? := by
    funext page
    rw [scanSection?, scanSection?, h page]
  rw [scan, scan, hsection]

/-- **What the mode decides.**  A selector with `:hasText` is refused for the same reason in
all modes, or the mode only decides what becomes of its argument. -/
theorem Plan.parse_hasTextSelector_cases [Css.Wording] (base argument : String) :
    (∃ e, ∀ mode, Plan.parse (hasTextSelector base argument) mode = .error e) ∨
      ∃ read, ∀ mode, Plan.parse (hasTextSelector base argument) mode =
        (TextTest.compile argument mode).map fun test =>
          ⟨⟨base, .hasText argument⟩, read, .hasText test⟩ := by
  by_cases hnone : Marker.hasText.count base = 0 ∧ Marker.hasText.count argument = 0
  · have hbase := (Marker.hasText.count_eq_zero_iff base).mp hnone.1
    have hargument := (Marker.hasText.count_eq_zero_iff argument).mp hnone.2
    have hparse := Plan.parse_hasTextSelector hbase hargument
    cases hread : Structural.compile base with
    | error e =>
        simp only [hread] at hparse
        exact Or.inl ⟨e, hparse⟩
    | ok read =>
        simp only [hread] at hparse
        exact Or.inr ⟨read, hparse⟩
  · have hleads := Marker.hasText_leads_written base argument
    refine Or.inl ⟨.nested .hasText, fun mode => ?_⟩
    rw [Plan.parse, hasTextSelector_eq_written, Hybrid.parse_written _ hleads, if_neg hnone]
    rfl

namespace TextTest

/-- Taken for a pattern, characters one after the other are found where the text is found. -/
theorem accepts_ofChars (p text : String) :
    (pattern ⟨p, .ofChars p.toList⟩).accepts text = (substring p).accepts text := by
  rw [Bool.eq_iff_iff]
  exact Pattern.Expr.occursIn_ofChars_iff.trans occursIn_iff.symm

variable {p : String}

/-- An argument without signs is refused as a pattern only for its size. -/
theorem compile_pattern_plain (hplain : Pattern.IsPlain p.toList) :
    compile p .pattern =
      if Pattern.Size.frame + Pattern.Size.state * p.utf8ByteSize ≤ Pattern.sizeLimit then
        .ok (.pattern ⟨p, .ofChars p.toList⟩)
      else .error (.invalidPattern p (.tooLarge Pattern.sizeLimit)) := by
  rw [compile, Pattern.compile_plain hplain]
  by_cases hle : Pattern.Size.frame + Pattern.Size.state * p.utf8ByteSize ≤ Pattern.sizeLimit
  · rw [if_pos hle, if_pos hle]
  · rw [if_neg hle, if_neg hle]

end TextTest

/-- **Both modes agree on plain arguments.**  Take an argument without any sign of patterns,
with single spaces between its words and no blanks at its ends.  Taken for a pattern it is
refused only for being too large, and that when the states for its bytes and those around them
are more than there may be.
Otherwise it makes a test in both modes, the two tests accept the same texts, and behind any
base the selector is refused for the same reason in both modes or accepted in both, with plans
that match the same elements and count the same in every document. -/
theorem hasText_modes_agree [Css.Wording] {p : String} (hplain : Pattern.IsPlain p.toList)
    (hspaced : collapse p = p) :
    (∀ e, TextTest.compile p .pattern = .error e ↔
      e = .invalidPattern p (.tooLarge Pattern.sizeLimit) ∧
        Pattern.sizeLimit < Pattern.Size.frame + Pattern.Size.state * p.utf8ByteSize) ∧
    (Pattern.Size.frame + Pattern.Size.state * p.utf8ByteSize ≤ Pattern.sizeLimit →
      (∃ piece pattern, TextTest.compile p .substring = .ok piece ∧
        TextTest.compile p .pattern = .ok pattern ∧
        ∀ text, piece.accepts text = pattern.accepts text) ∧
      ∀ base,
        (∃ e, Plan.parse (hasTextSelector base p) .substring = .error e ∧
          Plan.parse (hasTextSelector base p) .pattern = .error e) ∨
        ∃ plan plan', Plan.parse (hasTextSelector base p) .substring = .ok plan ∧
          Plan.parse (hasTextSelector base p) .pattern = .ok plan' ∧
          plan'.selector = plan.selector ∧ plan'.base = plan.base ∧ plan.SameMatches plan' ∧
          ∀ tree, plan.scan tree = plan'.scan tree) := by
  have hpiece : TextTest.compile p .substring = .ok (.substring p) := by
    rw [TextTest.compile, hspaced]
  have hpattern := TextTest.compile_pattern_plain hplain
  constructor
  · intro e
    rw [hpattern]
    split
    · next hle =>
        constructor
        · intro h
          cases h
        · intro h
          exact absurd h.2 (Nat.not_lt.mpr hle)
    · next hle =>
        constructor
        · intro h
          exact ⟨(Except.error.inj h).symm, Nat.lt_of_not_le hle⟩
        · intro h
          rw [h.1]
  -- from here on both tests are known: one for the characters and one for the piece of text
  · intro hle
    rw [if_pos hle] at hpattern
    refine ⟨⟨_, _, hpiece, hpattern, fun text => (TextTest.accepts_ofChars p text).symm⟩, ?_⟩
    intro base
    rcases Plan.parse_hasTextSelector_cases base p with ⟨e, hrefused⟩ | ⟨read, hparse⟩
    · exact Or.inl ⟨e, hrefused .substring, hrefused .pattern⟩
    · have hplan := hparse .substring
      have hplan' := hparse .pattern
      rw [hpiece] at hplan
      rw [hpattern] at hplan'
      have hsame : Plan.SameMatches ⟨⟨base, .hasText p⟩, read, .hasText (.substring p)⟩
          ⟨⟨base, .hasText p⟩, read, .hasText (.pattern ⟨p, .ofChars p.toList⟩)⟩ := fun _ =>
        List.filter_congr fun place _ => (TextTest.accepts_ofChars p place.text).symm
      exact Or.inr ⟨_, _, hplan, hplan', rfl, rfl, hsame, hsame.scan_eq⟩

/-- Letters with accents and a dash beyond ASCII. -/
theorem hasText_modes_agree_accents :
    Pattern.IsPlain "Étape 1 – à côté".toList ∧ collapse "Étape 1 – à côté" = "Étape 1 – à côté" ∧
      Pattern.Size.frame + Pattern.Size.state * "Étape 1 – à côté".utf8ByteSize
        ≤ Pattern.sizeLimit ∧
      ∃ plan plan', Plan.parse (hasTextSelector "p" "Étape 1 – à côté") .substring = .ok plan ∧
        Plan.parse (hasTextSelector "p" "Étape 1 – à côté") .pattern = .ok plan' ∧
        ∀ tree, plan.scan tree = plan'.scan tree := by
  have hplain : Pattern.IsPlain "Étape 1 – à côté".toList := by decide
  have hspaced : collapse "Étape 1 – à côté" = "Étape 1 – à côté" := by decide
  have hsize : Pattern.Size.frame + Pattern.Size.state * "Étape 1 – à côté".utf8ByteSize
      ≤ Pattern.sizeLimit := by
    decide
  have hbase : ¬ ":hasText".toList <:+: "p".toList := by decide
  have hnone : ¬ ":hasText".toList <:+: "Étape 1 – à côté".toList := by decide
  obtain ⟨read, hread⟩ : ∃ read, Structural.compile "p" = .ok read := ⟨_, rfl⟩
  obtain ⟨-, hfits⟩ := hasText_modes_agree hplain hspaced
  rcases (hfits hsize).2 "p" with ⟨e, hrefused, -⟩ | ⟨plan, plan', hplan, hplan', -, -, -, hscan⟩
  · -- the base can be read, and a piece of text is never refused
    rw [Plan.parse_hasTextSelector hbase hnone, hread] at hrefused
    cases hrefused
  · exact ⟨hplain, hspaced, hsize, plan, plan', hplan, hplan', hscan⟩

end BookCensus
