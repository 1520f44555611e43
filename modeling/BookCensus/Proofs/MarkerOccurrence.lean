import BookCensus.Text.Search
import Mathlib.Data.List.Infix

/-!
# Occurrences of one text in another

`Text.cut?` looks for the first occurrence of a text and `Text.occursIn` for
any.  Both are tied here to the number of positions at which the text stands:

* `occursIn_iff` and `occurrences_pos_iff` — being found, standing at some
  position and being an unbroken piece are the same;
* `cut?_eq_none_iff`, `eq_append_of_cut?` and `cut?_of_occurrences_eq_one` — a
  cut fails where there is no occurrence, gives back the text when its parts are
  put together, and is the only way to put it together when there is one
  occurrence.

A marker begins with a character that it does not have again.  Two occurrences
of such a text cannot overlap, so a cut takes away exactly one of them
(`occurrences_of_cut?`).
-/

namespace BookCensus.Text

/-- At how many positions of `text` the text `part` stands. -/
def occurrences (part text : List Char) : Nat :=
  text.tails.countP (part.isPrefixOf ·)

variable {part text : List Char}

/-- The first position counts when the text begins with what is looked for. -/
theorem occurrences_cons (part rest : List Char) (x : Char) :
    occurrences part (x :: rest)
      = occurrences part rest + if part.isPrefixOf (x :: rest) then 1 else 0 := by
  rw [occurrences, List.tails_cons, List.countP_cons]
  rfl

/-- What occurs is an unbroken piece. -/
theorem occurrences_pos_iff : 0 < occurrences part text ↔ part <:+: text := by
  rw [occurrences, List.countP_pos_iff, List.infix_iff_prefix_suffix]
  constructor
  · rintro ⟨t, ht, h⟩
    exact ⟨t, List.isPrefixOf_iff_prefix.mp h, (List.mem_tails t text).mp ht⟩
  · rintro ⟨t, h, ht⟩
    exact ⟨t, (List.mem_tails t text).mpr ht, List.isPrefixOf_iff_prefix.mpr h⟩

/-- The search for an occurrence finds one when there is any. -/
theorem occursIn_iff : occursIn part text = true ↔ part <:+: text := by
  induction text with
  | nil => cases part <;> simp [occursIn]
  | cons x rest ih =>
      rw [occursIn, Bool.or_eq_true, ih, List.isPrefixOf_iff_prefix, List.infix_cons_iff]

/-- A shorter text occurs wherever a text that begins with it does. -/
theorem occurrences_le_of_prefix {longer : List Char} (h : part <+: longer) :
    occurrences longer text ≤ occurrences part text := by
  apply List.countP_mono_left
  intro t _ ht
  exact List.isPrefixOf_iff_prefix.mpr (h.trans (List.isPrefixOf_iff_prefix.mp ht))

/-- What is between two other pieces occurs. -/
theorem occurrences_append_pos (before part after : List Char) :
    0 < occurrences part (before ++ part ++ after) :=
  occurrences_pos_iff.mpr (List.infix_append before part after)

/-! ## Cutting a text -/

/-- Taking a piece off the front leaves what stands behind it. -/
theorem isPrefixOf?_eq_some_iff {after : List Char} :
    part.isPrefixOf? text = some after ↔ text = part ++ after := by
  induction part generalizing text with
  | nil => simp [List.isPrefixOf?]
  | cons p rest ih =>
      cases text with
      | nil => simp [List.isPrefixOf?]
      | cons x xs =>
          by_cases h : p = x
          · subst h
            simp [List.isPrefixOf?, ih]
          · simp [List.isPrefixOf?, h, Ne.symm h]

/-- The two tests for a beginning agree. -/
theorem isPrefixOf_eq_isSome (part text : List Char) :
    part.isPrefixOf text = (part.isPrefixOf? text).isSome := by
  rw [Bool.eq_iff_iff, List.isPrefixOf_iff_prefix, Option.isSome_iff_exists]
  constructor
  · rintro ⟨after, h⟩
    exact ⟨after, isPrefixOf?_eq_some_iff.mpr h.symm⟩
  · rintro ⟨after, h⟩
    exact ⟨after, (isPrefixOf?_eq_some_iff.mp h).symm⟩

/-- A cut fails when the text does not begin with the part and neither does any
later piece of it. -/
theorem cut?_eq_none_iff : cut? part text = none ↔ occurrences part text = 0 := by
  induction text with
  | nil => cases part <;> simp [cut?, occurrences]
  | cons x rest ih =>
      rw [cut?, occurrences_cons, isPrefixOf_eq_isSome]
      cases part.isPrefixOf? (x :: rest) with
      | none => simp [ih]
      | some after => simp

/-- The parts of a cut give back the text. -/
theorem eq_append_of_cut? {before after : List Char} (h : cut? part text = some (before, after)) :
    text = before ++ part ++ after := by
  induction text generalizing before with
  | nil =>
      rw [cut?] at h
      split at h
      · next hpart =>
          obtain ⟨rfl, rfl⟩ := Prod.mk.inj (Option.some.inj h)
          simpa using hpart
      · cases h
  | cons x rest ih =>
      rw [cut?] at h
      split at h
      · next found hfound =>
          obtain ⟨rfl, rfl⟩ := Prod.mk.inj (Option.some.inj h)
          exact isPrefixOf?_eq_some_iff.mp hfound
      · obtain ⟨⟨front, back⟩, hcut, heq⟩ := Option.map_eq_some_iff.mp h
        obtain ⟨rfl, rfl⟩ := Prod.mk.inj heq
        rw [List.cons_append, List.cons_append, ← ih hcut]

/-- With one occurrence there is one way to cut. -/
theorem cut?_of_occurrences_eq_one {before after : List Char}
    (h : occurrences part (before ++ part ++ after) = 1) :
    cut? part (before ++ part ++ after) = some (before, after) := by
  induction before with
  | nil =>
      cases part with
      | nil =>
          cases after with
          | nil => rfl
          | cons x rest => simp [cut?, List.isPrefixOf?]
      | cons p rest =>
          have hhere : (p :: rest).isPrefixOf? (p :: (rest ++ after)) = some after :=
            isPrefixOf?_eq_some_iff.mpr rfl
          simp only [List.nil_append, List.cons_append, cut?, hhere]
  | cons x front ih =>
      -- the piece stands further on, so it may not stand here
      have hlater := occurrences_append_pos front part after
      rw [List.cons_append, List.cons_append, occurrences_cons, isPrefixOf_eq_isSome] at h
      rw [List.cons_append, List.cons_append, cut?]
      cases hfront : part.isPrefixOf? (x :: (front ++ part ++ after)) with
      | none =>
          rw [hfront, Option.isSome_none, if_neg Bool.false_ne_true, Nat.add_zero] at h
          rw [ih h]
          rfl
      | some rest =>
          -- a second occurrence at the front would be one too many
          rw [hfront, Option.isSome_some, if_pos rfl] at h
          omega

/-! ## Texts whose first character stands only at their beginning -/

section Marker

variable {c : Char} {letters : List Char}

/-- Such a text does not begin where its first character is missing. -/
theorem occurrences_append_of_notMem {skipped : List Char} (h : c ∉ skipped) (rest : List Char) :
    occurrences (c :: letters) (skipped ++ rest) = occurrences (c :: letters) rest := by
  induction skipped with
  | nil => rfl
  | cons x xs ih =>
      have hx : c ≠ x := fun hcx => h (hcx ▸ List.mem_cons_self)
      have hxs : c ∉ xs := fun hmem => h (List.mem_cons_of_mem x hmem)
      have hno : ¬ (c :: letters).isPrefixOf (x :: (xs ++ rest)) = true := by
        rw [List.isPrefixOf_iff_prefix, List.cons_prefix_cons]
        exact fun hp => hx hp.1
      rw [List.cons_append, occurrences_cons, if_neg hno, ih hxs, Nat.add_zero]

/-- An occurrence at the front is one more than there are behind it. -/
theorem occurrences_self_append (hc : c ∉ letters) (rest : List Char) :
    occurrences (c :: letters) (c :: letters ++ rest)
      = occurrences (c :: letters) rest + 1 := by
  have hyes : (c :: letters).isPrefixOf (c :: (letters ++ rest)) = true :=
    List.isPrefixOf_iff_prefix.mpr ⟨rest, rfl⟩
  rw [List.cons_append, occurrences_cons, if_pos hyes, occurrences_append_of_notMem hc]

/-- **A cut takes away one occurrence.**  The others are all behind it. -/
theorem occurrences_of_cut? (hc : c ∉ letters) {before after : List Char}
    (h : cut? (c :: letters) text = some (before, after)) :
    occurrences (c :: letters) text = occurrences (c :: letters) after + 1 := by
  induction text generalizing before with
  | nil => simp [cut?] at h
  | cons x rest ih =>
      rw [cut?] at h
      split at h
      · next found hfound =>
          obtain ⟨rfl, rfl⟩ := Prod.mk.inj (Option.some.inj h)
          rw [isPrefixOf?_eq_some_iff.mp hfound, occurrences_self_append hc]
      · next hnone =>
          obtain ⟨⟨front, back⟩, hcut, heq⟩ := Option.map_eq_some_iff.mp h
          obtain ⟨rfl, rfl⟩ := Prod.mk.inj heq
          rw [occurrences_cons, isPrefixOf_eq_isSome, hnone, ih hcut]
          rfl

/-- Where a piece ends in front of a character that it does not have, nothing of
it lies behind. -/
theorem prefix_append_cons_iff {d : Char} {piece before rest : List Char} (hd : d ∉ piece) :
    piece <+: before ++ d :: rest ↔ piece <+: before := by
  induction before generalizing piece with
  | nil =>
      cases piece with
      | nil => simp
      | cons x xs =>
          have hx : x ≠ d := fun h => hd (h ▸ List.mem_cons_self)
          simp [List.cons_prefix_cons, hx]
  | cons b before ih =>
      cases piece with
      | nil => simp
      | cons x xs =>
          have hxs : d ∉ xs := fun h => hd (List.mem_cons_of_mem x h)
          rw [List.cons_append, List.cons_prefix_cons, List.cons_prefix_cons, ih hxs]

/-- **No occurrence across a seam.**  At a character that can only be the first of
an occurrence, those before it and those from it on are counted apart. -/
theorem occurrences_append_cons {d : Char} (hd : d ∉ letters) (before rest : List Char) :
    occurrences (c :: letters) (before ++ d :: rest)
      = occurrences (c :: letters) before + occurrences (c :: letters) (d :: rest) := by
  induction before with
  | nil => simp [occurrences]
  | cons x xs ih =>
      have hhere : (c :: letters).isPrefixOf (x :: (xs ++ d :: rest))
          = (c :: letters).isPrefixOf (x :: xs) := by
        rw [Bool.eq_iff_iff, List.isPrefixOf_iff_prefix, List.isPrefixOf_iff_prefix,
          List.cons_prefix_cons, List.cons_prefix_cons, prefix_append_cons_iff hd]
      rw [List.cons_append, occurrences_cons, occurrences_cons, ih, hhere]
      omega

end Marker

end BookCensus.Text
