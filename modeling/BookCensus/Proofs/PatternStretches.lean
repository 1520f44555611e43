import BookCensus.Pattern.Match
import Mathlib.Data.Nat.Bitwise

/-!
# The stretches that a pattern describes

`Expr.occursIn` looks for a pattern by moving sets of places, all beginnings at once, and goes
round a repetition no more often than there are places to reach.  `Expr.Spans` says, with no
set and no bound, from where to where an expression describes a stretch of a text:

* one character of a set, nothing at a place that fulfils a condition;
* one expression and then another, one of two;
* an expression any number of times that a repetition allows.

Both agree: `Expr.follows_move` for moving a set of places, from which `Expr.occursIn_iff`
follows for looking.  What has to be shown is that bounds on repetitions lose nothing.  A walk
of more steps than the text has characters stands still once (`Repeats.exists_still`), and
there it can be made longer or shorter.
-/

namespace BookCensus.Pattern

/-! ## Walks -/

/-- A number of steps from one place to another. -/
inductive Repeats (R : Nat → Nat → Prop) : Nat → Nat → Nat → Prop
  | none (i : Nat) : Repeats R 0 i i
  | more {n i k j : Nat} (first : R i k) (rest : Repeats R n k j) : Repeats R (n + 1) i j

/-- Steps that never go back and never leave a text of some length. -/
structure Forward (length : Nat) (R : Nat → Nat → Prop) : Prop where
  le : ∀ {i j}, R i j → i ≤ j
  inside : ∀ {i j}, R i j → i < j → j ≤ length

namespace Repeats

variable {R : Nat → Nat → Prop} {n m i j k : Nat}

/-- No step leads nowhere else. -/
theorem zero_iff : Repeats R 0 i j ↔ i = j := by
  constructor
  · intro h
    cases h
    rfl
  · rintro rfl
    exact .none i

/-- One step more is one step, and then the others. -/
theorem succ_iff : Repeats R (n + 1) i j ↔ ∃ k, R i k ∧ Repeats R n k j := by
  constructor
  · intro h
    cases h with
    | more first rest => exact ⟨_, first, rest⟩
  · rintro ⟨k, first, rest⟩
    exact .more first rest

/-- A walk is cut after any number of its steps. -/
theorem add_iff : Repeats R (n + m) i j ↔ ∃ k, Repeats R n i k ∧ Repeats R m k j := by
  induction n generalizing i with
  | zero => simp [zero_iff]
  | succ n ih =>
      rw [Nat.add_right_comm, succ_iff]
      simp only [succ_iff, ih]
      constructor
      · rintro ⟨l, first, k, rest, behind⟩
        exact ⟨k, ⟨l, first, rest⟩, behind⟩
      · rintro ⟨k, ⟨l, first, rest⟩, behind⟩
        exact ⟨l, first, k, rest, behind⟩

/-- The last step of a walk. -/
theorem succ_last_iff : Repeats R (n + 1) i j ↔ ∃ k, Repeats R n i k ∧ R k j := by
  rw [add_iff]
  simp only [succ_iff, zero_iff, exists_eq_right]

/-- Steps that go forward and stay in the text do so together. -/
theorem forward {length : Nat} (hR : Forward length R) (h : Repeats R n i j) :
    i ≤ j ∧ (i < j → j ≤ length) := by
  induction h with
  | none i => exact ⟨Nat.le_refl i, fun h => absurd h (Nat.lt_irrefl i)⟩
  | more first rest ih =>
      refine ⟨Nat.le_trans (hR.le first) ih.1, ?_⟩
      intro hlt
      rcases Nat.eq_or_lt_of_le ih.1 with rfl | hrest
      · exact hR.inside first hlt
      · exact ih.2 hrest

/-- A walk that stands still nowhere gets on by one place with every step. -/
theorem exists_still_or_le (hR : ∀ {i j}, R i j → i ≤ j) (h : Repeats R n i j) :
    (∃ a k b, a + 1 + b = n ∧ Repeats R a i k ∧ R k k ∧ Repeats R b k j) ∨ i + n ≤ j := by
  induction h with
  | none i => exact Or.inr (Nat.le_refl i)
  | @more n i k j first rest ih =>
      rcases Nat.eq_or_lt_of_le (hR first) with rfl | hlt
      · exact Or.inl ⟨0, i, n, by omega, .none i, first, rest⟩
      · rcases ih with ⟨a, l, b, hn, before, still, behind⟩ | hle
        · exact Or.inl ⟨a + 1, l, b, by omega, .more first before, still, behind⟩
        · exact Or.inr (by omega)

/-- **Standing still.**  A walk of more steps than the text has characters stands still at
some place. -/
theorem exists_still {length : Nat} (hR : Forward length R) (h : Repeats R n i j)
    (hn : length < n) :
    ∃ a k b, a + 1 + b = n ∧ Repeats R a i k ∧ R k k ∧ Repeats R b k j := by
  rcases exists_still_or_le (fun h => hR.le h) h with hstill | hle
  · exact hstill
  · have hinside := (h.forward hR).2 (by omega)
    omega

/-- A walk of more steps than the text has characters may as well have one step more. -/
theorem succ_iff_of_lt {length : Nat} (hR : Forward length R) (hn : length < n) :
    Repeats R (n + 1) i j ↔ Repeats R n i j := by
  constructor
  · intro h
    obtain ⟨a, k, b, hsum, before, -, behind⟩ := h.exists_still hR (by omega)
    have hn : n = a + b := by omega
    exact hn ▸ add_iff.mpr ⟨k, before, behind⟩
  · intro h
    obtain ⟨a, k, b, hsum, before, still, behind⟩ := h.exists_still hR hn
    have hn : n + 1 = a + (b + 1 + 1) := by omega
    exact hn ▸ add_iff.mpr ⟨k, before, .more still (.more still behind)⟩

/-- **Enough steps.**  Of more steps than the text has characters, one more than it has is as
good as any number. -/
theorem min_iff {length : Nat} (hR : Forward length R) :
    Repeats R (min n (length + 1)) i j ↔ Repeats R n i j := by
  rcases Nat.le_total n (length + 1) with hle | hle
  · rw [Nat.min_eq_left hle]
  · rw [Nat.min_eq_right hle]
    induction n, hle using Nat.le_induction with
    | base => exact Iff.rfl
    | succ n hn ih => rw [ih, succ_iff_of_lt hR hn]

end Repeats

/-! ## What an expression describes -/

/-- The character in front of a place, if there is one. -/
def charBefore (text : List Char) : Nat → Option Char
  | 0 => none
  | i + 1 => text[i]?

/-- From where to where an expression describes a stretch of a text.  A greatest number of
repetitions below the least one counts as that. -/
def Expr.Spans (text : List Char) : Expr → Nat → Nat → Prop
  | .nothing, i, j => i ≤ text.length ∧ j = i
  | .char set, i, j => (∃ c, text[i]? = some c ∧ set.contains c = true) ∧ j = i + 1
  | .look condition, i, j =>
      i ≤ text.length ∧ j = i ∧
        condition.holds condition.wordChars (charBefore text i) text[i]? = true
  | .capture body, i, j => body.Spans text i j
  | .seq first second, i, j => ∃ k, first.Spans text i k ∧ second.Spans text k j
  | .alt first second, i, j => first.Spans text i j ∨ second.Spans text i j
  | .loop least most body, i, j =>
      ∃ n, least ≤ n ∧ (∀ m ∈ most, n ≤ max least m) ∧ Repeats (body.Spans text) n i j

/-- Stretches never go back and never leave the text. -/
theorem Expr.forward_spans (text : List Char) (e : Expr) :
    Forward text.length (e.Spans text) := by
  induction e with
  | nothing => exact ⟨fun h => Nat.le_of_eq h.2.symm, fun h hlt => by have := h.2; omega⟩
  | look condition =>
      exact ⟨fun h => Nat.le_of_eq h.2.1.symm, fun h hlt => by have := h.2.1; omega⟩
  | char set =>
      refine ⟨fun h => by have := h.2; omega, fun h _ => ?_⟩
      obtain ⟨⟨c, hc, -⟩, rfl⟩ := h
      exact (List.getElem?_eq_some_iff.mp hc).1
  | capture body ih => exact ih
  | seq first second ih ih' =>
      constructor
      · rintro i j ⟨k, h, h'⟩
        exact Nat.le_trans (ih.le h) (ih'.le h')
      · rintro i j ⟨k, h, h'⟩ hlt
        rcases Nat.eq_or_lt_of_le (ih'.le h') with rfl | hrest
        · exact ih.inside h hlt
        · exact ih'.inside h' hrest
  | alt first second ih ih' =>
      exact ⟨fun h => h.elim ih.le ih'.le, fun h hlt => h.elim (ih.inside · hlt) (ih'.inside · hlt)⟩
  | loop least most body ih =>
      constructor
      · rintro i j ⟨n, -, -, h⟩
        exact (h.forward ih).1
      · rintro i j ⟨n, -, -, h⟩
        exact (h.forward ih).2

/-! ## Sets of places -/

namespace Places

/-- The digits of a set made of a list are the items of the list. -/
theorem testBit_ofBools (l : List Bool) (i : Nat) : (ofBools l).testBit i = l[i]?.getD false := by
  induction l generalizing i with
  | nil => simp [ofBools]
  | cons b rest ih =>
      cases i with
      | zero => cases b <;> simp [ofBools, Nat.testBit_zero]
      | succ i =>
          have hhalf (n : Nat) : (2 * n + b.toNat) / 2 = n := by
            have hb := b.toNat_le
            omega
          rw [ofBools, Nat.testBit_add_one, hhalf, ih]
          rfl

/-- The set of all places has each place of the text. -/
theorem testBit_upTo (length i : Nat) : (upTo length).testBit i = decide (i ≤ length) := by
  have h := Nat.testBit_two_pow_sub_one (length + 1) i
  simp only [Nat.lt_succ_iff] at h
  exact h

end Places

/-- Where a condition holds, place by place. -/
theorem Look.getElem?_placesFrom (condition : Look) (word : CharSet) (text : List Char)
    (before : Option Char) (i : Nat) :
    (condition.placesFrom word before text)[i]? =
      if i ≤ text.length then
        some (condition.holds word (if i = 0 then before else charBefore text i) text[i]?)
      else none := by
  induction text generalizing before i with
  | nil => cases i <;> simp [placesFrom]
  | cons c rest ih =>
      cases i with
      | zero => simp [placesFrom]
      | succ i =>
          have hbefore : charBefore (c :: rest) (i + 1)
              = if i = 0 then some c else charBefore rest i := by
            cases i <;> rfl
          rw [placesFrom, List.getElem?_cons_succ, ih, hbefore]
          simp

/-! ## Moving sets of places -/

/-- A move of sets of places takes every place along the steps that lead on from it. -/
def Follows (move : Places → Places) (R : Nat → Nat → Prop) : Prop :=
  ∀ places j, (move places).testBit j = true ↔ ∃ i, places.testBit i = true ∧ R i j

/-- A place is reached from a set of places in a number of steps. -/
def Reaches (R : Nat → Nat → Prop) (start : Places) (n j : Nat) : Prop :=
  ∃ i, start.testBit i = true ∧ Repeats R n i j

namespace Reaches

variable {R : Nat → Nat → Prop} {start : Places} {m n j : Nat}

/-- What is reached with one step more is one step from what was reached before. -/
theorem succ_iff : Reaches R start (n + 1) j ↔ ∃ k, Reaches R start n k ∧ R k j := by
  simp only [Reaches, Repeats.succ_last_iff]
  constructor
  · rintro ⟨i, hi, k, rest, last⟩
    exact ⟨k, ⟨i, hi, rest⟩, last⟩
  · rintro ⟨k, ⟨i, hi, rest⟩, last⟩
    exact ⟨i, hi, k, rest, last⟩

/-- When one step more than some number reaches nothing new, no number of steps does. -/
theorem settled (hsettled : ∀ j, Reaches R start (m + 1) j → ∃ k ≤ m, Reaches R start k j)
    (h : Reaches R start n j) : ∃ k ≤ m, Reaches R start k j := by
  induction n generalizing j with
  | zero => exact ⟨0, Nat.zero_le m, h⟩
  | succ n ih =>
      obtain ⟨l, hl, last⟩ := succ_iff.mp h
      obtain ⟨k, hk, hkl⟩ := ih hl
      have hnext : Reaches R start (k + 1) j := succ_iff.mpr ⟨l, hkl, last⟩
      rcases Nat.eq_or_lt_of_le hk with rfl | hlt
      · exact hsettled j hnext
      · exact ⟨k + 1, hlt, hnext⟩

end Reaches

namespace Follows

variable {move : Places → Places} {R : Nat → Nat → Prop}

/-- Moving a number of times takes a place along the walks of so many steps. -/
theorem moveTimes (hmove : Follows move R) (n : Nat) :
    Follows (Pattern.moveTimes move n) (Repeats R n) := by
  induction n with
  | zero =>
      intro places j
      simp [Pattern.moveTimes, Repeats.zero_iff]
  | succ n ih =>
      intro places j
      rw [Pattern.moveTimes]
      split
      · next hnone => simp [hnone]
      · rw [ih]
        simp only [hmove places, Repeats.succ_iff]
        constructor
        · rintro ⟨k, ⟨i, hi, first⟩, rest⟩
          exact ⟨i, hi, k, first, rest⟩
        · rintro ⟨i, hi, k, first, rest⟩
          exact ⟨k, ⟨i, hi, first⟩, rest⟩

/-- **Gathering** from the latest places on gives all places that are reached in up to so many
steps more, when it begins with those that were reached in fewer. -/
theorem testBit_gather_iff (hmove : Follows move R) {start : Places} {m : Nat} (n : Nat)
    {latest reached : Places} (hlatest : ∀ j, latest.testBit j = true ↔ Reaches R start m j)
    (hreached : ∀ j, reached.testBit j = true ↔ ∃ k ≤ m, Reaches R start k j) (j : Nat) :
    (gather move n latest reached).testBit j = true ↔ ∃ k ≤ m + n, Reaches R start k j := by
  induction n generalizing m latest reached with
  | zero => exact hreached j
  | succ n ih =>
      -- the two hypotheses are the invariant: `latest` has what is reached in just `m` steps,
      -- `reached` what is reached in up to `m`
      have hnext : ∀ j, (move latest).testBit j = true ↔ Reaches R start (m + 1) j := by
        intro j
        rw [hmove, Reaches.succ_iff]
        simp only [hlatest]
      have hall : ∀ j, (reached ||| move latest).testBit j = true ↔
          ∃ k ≤ m + 1, Reaches R start k j := by
        intro j
        rw [Nat.testBit_or, Bool.or_eq_true, hreached, hnext]
        simp only [Nat.le_succ_iff, or_and_right, exists_or, exists_eq_left]
      rw [gather]
      split
      · next hsame =>
          -- with one step more nothing new is reached, hence with no number of them
          rw [hreached]
          have hsettled : ∀ j, Reaches R start (m + 1) j → ∃ k ≤ m, Reaches R start k j := by
            intro j h
            rw [← hreached, ← hsame, hall]
            exact ⟨m + 1, Nat.le_refl _, h⟩
          constructor
          · rintro ⟨k, hk, h⟩
            exact ⟨k, by omega, h⟩
          · rintro ⟨k, -, h⟩
            exact h.settled hsettled
      · rw [ih hnext hall, Nat.add_right_comm]
        rfl

end Follows

/-- The repetitions that are counted out and those that are gathered behind them are all that a
repetition allows. -/
theorem exists_repeats_iff {length : Nat} {R : Nat → Nat → Prop} (hR : Forward length R)
    (least : Nat) (most : Option Nat) {i j : Nat} :
    (∃ k, Repeats R (min least (length + 1)) i k ∧
      ∃ m ≤ min ((most.map (· - least)).getD (length + 1)) (length + 1), Repeats R m k j) ↔
    ∃ n, least ≤ n ∧ (∀ m ∈ most, n ≤ max least m) ∧ Repeats R n i j := by
  constructor
  · rintro ⟨k, front, m, hm, behind⟩
    refine ⟨least + m, Nat.le_add_right least m, ?_,
      Repeats.add_iff.mpr ⟨k, (Repeats.min_iff hR).mp front, behind⟩⟩
    rintro bound rfl
    simp only [Option.map_some, Option.getD_some] at hm
    omega
  · rintro ⟨n, hleast, hmost, h⟩
    obtain ⟨extra, rfl⟩ := Nat.exists_eq_add_of_le hleast
    obtain ⟨k, front, behind⟩ := Repeats.add_iff.mp h
    refine ⟨k, (Repeats.min_iff hR).mpr front, min extra (length + 1), ?_,
      (Repeats.min_iff hR).mpr behind⟩
    cases most with
    | none => simp only [Option.map_none, Option.getD_none]; omega
    | some bound =>
        have hbound := hmost bound rfl
        simp only [Option.map_some, Option.getD_some]
        omega

/-- Along a character: each place is taken to the next one, so the set is shifted by one. -/
theorem Expr.follows_char (text : List Char) (set : CharSet) :
    Follows (((char set).route text).move text.length) ((char set).Spans text) := by
  intro places j
  have hchar : ∀ i, (Places.ofBools (text.map set.contains)).testBit i = true ↔
      ∃ c, text[i]? = some c ∧ set.contains c = true := by
    intro i
    rw [Places.testBit_ofBools, List.getElem?_map]
    cases text[i]? <;> simp
  rw [route, Route.move, Nat.testBit_shiftLeft]
  cases j with
  | zero => simp [Spans]
  | succ i =>
      simp only [Nat.testBit_and, Nat.add_sub_cancel, Bool.and_eq_true, hchar, Spans]
      constructor
      · rintro ⟨-, hi, hc⟩
        exact ⟨i, hi, hc, rfl⟩
      · rintro ⟨i', hi, hc, heq⟩
        obtain rfl : i = i' := Nat.succ.inj heq
        exact ⟨by simp, hi, hc⟩

/-- Along a condition: the places where it holds stay as they are. -/
theorem Expr.follows_look (text : List Char) (condition : Look) :
    Follows (((look condition).route text).move text.length) ((look condition).Spans text) := by
  intro places j
  have hplaces : (Places.ofBools (condition.placesFrom condition.wordChars none text)).testBit j
      = true ↔ j ≤ text.length ∧
        condition.holds condition.wordChars (charBefore text j) text[j]? = true := by
    have hfront : (if j = 0 then none else charBefore text j) = charBefore text j := by
      cases j <;> rfl
    rw [Places.testBit_ofBools, Look.getElem?_placesFrom, hfront]
    split
    · next h => simp [h]
    · next h => simp [h]
  rw [route, Route.move, Nat.testBit_and, Bool.and_eq_true, hplaces]
  constructor
  · rintro ⟨hj, hle, hholds⟩
    exact ⟨j, hj, hle, rfl, hholds⟩
  · rintro ⟨i, hi, hle, rfl, hholds⟩
    exact ⟨hi, hle, hholds⟩

/-- Along a repetition, when it is known how to move along what is repeated. -/
theorem Expr.follows_loop {text : List Char} {body : Expr} (least : Nat) (most : Option Nat)
    (ih : Follows ((body.route text).move text.length) (body.Spans text)) :
    Follows (((loop least most body).route text).move text.length)
      ((loop least most body).Spans text) := by
  intro places j
  -- The walk is cut in two: the rounds that must be made, and those that may be made.  No
  -- stretch goes back, so more rounds than there are places reach nothing new.
  let front := min least (text.length + 1)
  let start := moveTimes ((body.route text).move text.length) front places
  have hstart : ∀ k, start.testBit k = true ↔
      ∃ i, places.testBit i = true ∧ Repeats (body.Spans text) front i k :=
    fun k => ih.moveTimes front places k
  have hbegin : ∀ k, start.testBit k = true ↔ Reaches (body.Spans text) start 0 k := by
    intro k
    simp [Reaches, Repeats.zero_iff]
  have hgather := ih.testBit_gather_iff
    (min ((most.map (· - least)).getD (text.length + 1)) (text.length + 1)) hbegin
    (by simpa using hbegin) j
  rw [route, Route.move, hgather]
  simp only [Spans, ← exists_repeats_iff (body.forward_spans text) least most, Nat.zero_add,
    Reaches, hstart]
  constructor
  · rintro ⟨m, hm, k, ⟨i, hi, front⟩, behind⟩
    exact ⟨i, hi, k, front, m, hm, behind⟩
  · rintro ⟨i, hi, k, front, m, hm, behind⟩
    exact ⟨m, hm, k, ⟨i, hi, front⟩, behind⟩

/-- **Moving along an expression.**  The places at which the route of an expression over a text
may end, begun from some places, are those to which the expression describes a stretch from
one of these. -/
theorem Expr.follows_move (text : List Char) (e : Expr) :
    Follows ((e.route text).move text.length) (e.Spans text) := by
  induction e with
  | nothing =>
      intro places j
      rw [route, Route.move, Nat.testBit_and, Places.testBit_upTo, Bool.and_eq_true,
        decide_eq_true_iff]
      constructor
      · rintro ⟨hj, hle⟩
        exact ⟨j, hj, hle, rfl⟩
      · rintro ⟨i, hi, hle, rfl⟩
        exact ⟨hi, hle⟩
  | char set => exact follows_char text set
  | look condition => exact follows_look text condition
  | capture body ih => exact ih
  | seq first second ih ih' =>
      intro places j
      rw [route, Route.move, ih']
      simp only [ih places, Spans]
      constructor
      · rintro ⟨k, ⟨i, hi, h⟩, h'⟩
        exact ⟨i, hi, k, h, h'⟩
      · rintro ⟨i, hi, k, h, h'⟩
        exact ⟨k, ⟨i, hi, h⟩, h'⟩
  | alt first second ih ih' =>
      intro places j
      rw [route, Route.move, Nat.testBit_or, Bool.or_eq_true, ih, ih']
      simp only [Spans, and_or_left, exists_or]
  | loop least most body ih => exact follows_loop least most ih

/-- **Looking for a pattern.**  It is found in a text exactly when it describes a stretch of the
text that begins somewhere in it. -/
theorem Expr.occursIn_iff {e : Expr} {text : List Char} :
    e.occursIn text = true ↔ ∃ i j, i ≤ text.length ∧ e.Spans text i j := by
  have hmove := e.follows_move text (Places.upTo text.length)
  simp only [Places.testBit_upTo, decide_eq_true_iff] at hmove
  rw [occursIn, bne_iff_ne]
  constructor
  · intro hne
    obtain ⟨j, hj⟩ := Nat.exists_testBit_of_ne_zero hne
    obtain ⟨i, hi, h⟩ := (hmove j).mp hj
    exact ⟨i, j, hi, h⟩
  · rintro ⟨i, j, hi, h⟩ hzero
    have hj := (hmove j).mpr ⟨i, hi, h⟩
    rw [hzero, Nat.zero_testBit] at hj
    cases hj

end BookCensus.Pattern
