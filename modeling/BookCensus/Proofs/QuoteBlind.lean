import BookCensus.Css.Lexer
import Mathlib.Data.List.Infix
import Mathlib.Data.List.TakeWhile

/-!
# Reading with one mark for the other

A text may be sent with double quotes in place of its single ones.  A reader that takes
what it reads from the front is blind to this when the single quotes that it does not
take may as well be double ones.

* `requote` — the text as it is sent; no class of characters that holds both marks or
  neither tells it from the text;
* `QuoteBlind` — readers that are blind, closed under sequence, choice by such classes,
  and fuel that only depends on the length of the text.
-/

namespace BookCensus

namespace Text

/-- A double quote in place of a single one. -/
def requoteChar (c : Char) : Char :=
  if c = '\'' then '"' else c

/-- A text with double quotes in place of its single ones. -/
def requote (cs : List Char) : List Char :=
  cs.map requoteChar

/-- Only the single quote is replaced. -/
theorem requoteChar_of_ne {c : Char} (hc : c ≠ '\'') : requoteChar c = c :=
  if_neg hc

/-- A class of characters to which both marks belong or neither does. -/
theorem class_requoteChar {p : Char → Bool} (hp : p '"' = p '\'') (c : Char) :
    p (requoteChar c) = p c := by
  rw [requoteChar]
  split
  · next hc => rw [hc, hp]
  · rfl

/-- A character other than the two marks is where it was. -/
theorem requoteChar_eq_iff {c d : Char} (hsingle : d ≠ '\'') (hdouble : d ≠ '"') :
    requoteChar c = d ↔ c = d := by
  rw [requoteChar]
  split
  · next hc =>
      subst hc
      exact ⟨fun h => absurd h.symm hdouble, fun h => absurd h.symm hsingle⟩
  · rfl

@[simp] theorem requote_nil : requote [] = [] := rfl

/-- The text is sent character by character. -/
theorem requote_cons (c : Char) (cs : List Char) :
    requote (c :: cs) = requoteChar c :: requote cs := rfl

/-- A first character that is no single quote is sent as it is. -/
theorem requote_cons_of_ne {c : Char} (hc : c ≠ '\'') (cs : List Char) :
    requote (c :: cs) = c :: requote cs := by
  rw [requote_cons, requoteChar_of_ne hc]

@[simp] theorem length_requote (cs : List Char) : (requote cs).length = cs.length :=
  List.length_map _

/-- What stands at a place is sent to the same place. -/
theorem drop_requote (n : Nat) (cs : List Char) : (requote cs).drop n = requote (cs.drop n) :=
  (List.map_drop ..).symm

/-- A class of characters to which both marks belong, or neither does, has the first character
before and after. -/
theorem head?_any_requote {p : Char → Bool} (hp : p '"' = p '\'') (cs : List Char) :
    (requote cs).head?.any p = cs.head?.any p := by
  cases cs with
  | nil => rfl
  | cons c cs => exact class_requoteChar hp c

/-- The rest of a text is sent as the rest. -/
theorem tail_requote (cs : List Char) : (requote cs).tail = requote cs.tail :=
  List.map_tail.symm

/-- Characters of a class without the marks are read to the same place. -/
theorem takeWhile_requote {p : Char → Bool} (hdouble : p '"' = false) (hsingle : p '\'' = false)
    (cs : List Char) : (requote cs).takeWhile p = cs.takeWhile p := by
  induction cs with
  | nil => rfl
  | cons c cs ih =>
      rw [requote_cons, List.takeWhile_cons, List.takeWhile_cons,
        class_requoteChar (hdouble.trans hsingle.symm), ih]
      by_cases hc : p c = true
      · have hne : c ≠ '\'' := by
          rintro rfl
          simp [hsingle] at hc
        rw [if_pos hc, if_pos hc, requoteChar_of_ne hne]
      · rw [if_neg hc, if_neg hc]

/-- Characters of such a class are dropped up to the same place. -/
theorem dropWhile_requote {p : Char → Bool} (hp : p '"' = p '\'') (cs : List Char) :
    (requote cs).dropWhile p = requote (cs.dropWhile p) := by
  induction cs with
  | nil => rfl
  | cons c cs ih =>
      rw [requote_cons, List.dropWhile_cons, List.dropWhile_cons, class_requoteChar hp, ih]
      by_cases hc : p c = true
      · rw [if_pos hc, if_pos hc]
      · rw [if_neg hc, if_neg hc, requote_cons]

end Text

namespace Css

open Text

/-! ## Reading from the front -/

/-- What was read from a text down to `rest` has no single quote in it. -/
def Spares (cs rest : List Char) : Prop :=
  ∃ piece, piece ++ rest = cs ∧ '\'' ∉ piece

/-- What was read in two steps has no single quote when either part has none. -/
theorem Spares.split {cs mid rest : List Char} (h : Spares cs rest) (hmid : mid <:+ cs)
    (hrest : rest <:+ mid) : Spares cs mid ∧ Spares mid rest := by
  obtain ⟨first, rfl⟩ := hmid
  obtain ⟨second, rfl⟩ := hrest
  obtain ⟨piece, hpiece, hquote⟩ := h
  rw [← List.append_assoc, List.append_cancel_right_eq] at hpiece
  rw [hpiece, List.mem_append, not_or] at hquote
  exact ⟨⟨first, rfl, hquote.1⟩, ⟨second, rfl, hquote.2⟩⟩

/-- What was read from the second character on has no single quote, and neither is the first
character one. -/
theorem Spares.cons {c : Char} {cs rest : List Char} (h : Spares (c :: cs) rest)
    (hrest : rest <:+ cs) : c ≠ '\'' ∧ Spares cs rest := by
  obtain ⟨⟨piece, hpiece, hquote⟩, hmore⟩ := h.split (List.suffix_cons c cs) hrest
  obtain rfl : piece = [c] := List.append_cancel_right (by simpa using hpiece)
  exact ⟨fun hc => hquote (by simp [hc]), hmore⟩

/-- A reader takes what it reads from the front of a text, and where that has no single
quote in it, those behind may as well be double ones. -/
structure QuoteBlind {α : Type} (read : List Char → α × List Char) : Prop where
  suffix : ∀ cs, (read cs).2 <:+ cs
  requote : ∀ cs, Spares cs (read cs).2 →
    read (requote cs) = ((read cs).1, Text.requote (read cs).2)

namespace QuoteBlind

variable {α β : Type}

/-- A reader that reads nothing. -/
theorem pure (a : α) : QuoteBlind fun cs => (a, cs) :=
  ⟨fun _ => List.suffix_rfl, fun _ _ => rfl⟩

/-- One reader after another. -/
theorem bind {read : List Char → α × List Char} {next : α → List Char → β × List Char}
    (h : QuoteBlind read) (hnext : ∀ a, QuoteBlind (next a)) :
    QuoteBlind fun cs => next (read cs).1 (read cs).2 := by
  refine ⟨fun cs => ((hnext _).suffix _).trans (h.suffix cs), ?_⟩
  intro cs hspares
  obtain ⟨hfirst, hsecond⟩ := hspares.split (h.suffix cs) ((hnext _).suffix _)
  simp only [h.requote cs hfirst]
  exact (hnext _).requote _ hsecond

/-- A reader whose answer is put into another form. -/
theorem map {read : List Char → α × List Char} (f : α → β) (h : QuoteBlind read) :
    QuoteBlind fun cs => (f (read cs).1, (read cs).2) :=
  h.bind fun a => pure (f a)

/-- One reader or another, by a test that does not tell the marks apart. -/
theorem ite {test : List Char → Bool} {read other : List Char → α × List Char}
    (htest : ∀ cs, test (Text.requote cs) = test cs) (h : QuoteBlind read)
    (hother : QuoteBlind other) : QuoteBlind fun cs => if test cs then read cs else other cs := by
  refine ⟨fun cs => ?_, fun cs hspares => ?_⟩
  · split
    · exact h.suffix cs
    · exact hother.suffix cs
  · simp only [htest]
    by_cases hcs : test cs = true
    · simp only [if_pos hcs] at hspares ⊢
      exact h.requote cs hspares
    · simp only [if_neg hcs] at hspares ⊢
      exact hother.requote cs hspares

/-- Fuel that only depends on the length of the text. -/
theorem ofLength {read : Nat → List Char → α × List Char} (fuel : Nat → Nat)
    (h : ∀ n, QuoteBlind (read n)) : QuoteBlind fun cs => read (fuel cs.length) cs := by
  refine ⟨fun cs => (h _).suffix cs, fun cs hspares => ?_⟩
  simp only [length_requote]
  exact (h _).requote cs hspares

/-- A reader that leaves out one character, whatever it is. -/
theorem tail (a : α) : QuoteBlind fun cs => (a, cs.tail) :=
  ⟨List.tail_suffix, fun _ _ => congrArg (a, ·) (tail_requote _)⟩

/-- A reader that leaves out the characters of a class that does not tell the marks apart. -/
theorem dropWhile {p : Char → Bool} (hp : p '"' = p '\'') (a : α) :
    QuoteBlind fun cs => (a, cs.dropWhile p) :=
  ⟨fun _ => List.dropWhile_suffix p, fun cs _ => congrArg (a, ·) (dropWhile_requote hp cs)⟩

end QuoteBlind

/-- A reader that takes the first character where a test allows it, and then goes on by
one rule, else by another. -/
def onFront {α : Type} (test : List Char → Bool) (next : Char → List Char → α × List Char)
    (other : List Char → α × List Char) (cs : List Char) : α × List Char :=
  match cs with
  | c :: rest => if test (c :: rest) then next c rest else other (c :: rest)
  | [] => other []

/-- One rule or another, by a test that does not tell the marks apart. -/
theorem QuoteBlind.onFront {α : Type} {test : List Char → Bool}
    {next : Char → List Char → α × List Char} {other : List Char → α × List Char}
    (htest : ∀ cs, test (Text.requote cs) = test cs) (hnext : ∀ c, QuoteBlind (next c))
    (hother : QuoteBlind other) : QuoteBlind (onFront test next other) := by
  refine ⟨fun cs => ?_, fun cs hspares => ?_⟩
  · cases cs with
    | nil => exact hother.suffix []
    | cons c rest =>
        rw [Css.onFront]
        split
        · exact ((hnext c).suffix rest).trans (List.suffix_cons c rest)
        · exact hother.suffix (c :: rest)
  · cases cs with
    | nil => exact hother.requote [] hspares
    | cons c rest =>
        have hcs := htest (c :: rest)
        rw [requote_cons] at hcs ⊢
        by_cases hc : test (c :: rest) = true
        · simp only [Css.onFront, hcs, if_pos hc] at hspares ⊢
          obtain ⟨hquote, hmore⟩ := hspares.cons ((hnext c).suffix rest)
          rw [requoteChar_of_ne hquote]
          exact (hnext c).requote rest hmore
        · simp only [Css.onFront, hcs, if_neg hc] at hspares ⊢
          exact hother.requote (c :: rest) hspares

/-- Whether a text starts with a character of a class. -/
def headIs (p : Char → Bool) (cs : List Char) : Bool :=
  cs.head?.any p

/-- Such a class begins a text before and after it was sent. -/
theorem headIs_requote {p : Char → Bool} (hp : p '"' = p '\'') (cs : List Char) :
    headIs p (requote cs) = headIs p cs :=
  head?_any_requote hp cs

/-- Whether a text starts with characters of two classes. -/
def headsAre (p q : Char → Bool) (cs : List Char) : Bool :=
  headIs p cs && headIs q cs.tail

/-- Two such classes do so as well. -/
theorem headsAre_requote {p q : Char → Bool} (hp : p '"' = p '\'') (hq : q '"' = q '\'')
    (cs : List Char) : headsAre p q (requote cs) = headsAre p q cs := by
  rw [headsAre, headIs_requote hp, tail_requote, headIs_requote hq, headsAre]

end Css

end BookCensus
