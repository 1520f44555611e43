import BookCensus.Pattern
import BookCensus.Proofs.PatternStretches
import Mathlib.Data.List.Infix

/-!
# Patterns without signs

Fourteen signs mean something in a pattern, and a text in which none of them stands is a
pattern that describes just itself.  It is followed here through all stages:

* reading makes a literal of every character (`Syntax.parse_plain`);
* each describes the one character that it is, and all of them together one after the other
  (`interpret_row_literals`);
* beside what every machine has, the machine for it has one state for every byte of the text
  (`Expr.size_ofChars`), and being too large is the only reason for which it may be refused
  (`compile_plain`);
* it fits where the text stands (`Expr.occursIn_ofChars_iff`).
-/

namespace BookCensus

/-- A set of one character has that character. -/
theorem CharSet.contains_single (c d : Char) : (single c).contains d = true ↔ d = c := by
  simp only [contains, single, List.any_cons, List.any_nil, Bool.or_false, Bool.and_eq_true,
    decide_eq_true_iff, ← Char.toNat_inj]
  omega

namespace Pattern

/-- The signs that mean something in a pattern. -/
def signs : List Char :=
  "\\.+*?()|[]\x7b\x7d^$".toList

/-- No sign among some characters. -/
def IsPlain (cs : List Char) : Prop :=
  ∀ c ∈ cs, c ∉ signs

instance (cs : List Char) : Decidable (IsPlain cs) :=
  List.decidableBAll (· ∉ signs) cs

/-! ## Reading -/

/-- Every character taken for itself, from a place on. -/
def literals : Position → List Char → List Syntax
  | _, [] => []
  | pos, c :: rest => .literal ⟨⟨pos, pos.past c⟩, c, false⟩ :: literals (pos.past c) rest

/-- Parts one after the other, a single one for itself. -/
def Syntax.row (span : Span) : List Syntax → Syntax
  | [] => .empty span
  | [part] => part
  | parts => .sequence span parts

/-- The parts of a branch are one after the other. -/
theorem Level.branch_eq_row (l : Level) (stop : Position) :
    l.branch stop = Syntax.row ⟨l.since, stop⟩ l.parts.reverse := by
  rw [branch]
  split <;> simp_all [Syntax.row]

/-- A character that is no sign is read as a literal. -/
theorem primitive_plain {c : Char} (hc : c ∉ signs) (pos : Position) (rest : List Char) :
    primitive ⟨c :: rest, pos, false⟩ =
      .ok (.literal ⟨⟨pos, pos.past c⟩, c, false⟩, ⟨rest, pos.past c, false⟩) := by
  have hchar : Cursor.char? ⟨c :: rest, pos, false⟩ = some c := rfl
  rw [primitive, hchar]
  split
  case h_5 h =>
    obtain rfl := Option.some.inj h
    rfl
  case h_6 h => cases h
  all_goals
    next h =>
    obtain rfl := Option.some.inj h
    exact absurd (by decide) hc

/-- A character that is no sign becomes a part of its own, in whatever group it stands. -/
theorem step_plain {c : Char} (hc : c ∉ signs) (b : Build) (pos : Position) (rest : List Char) :
    step b c ⟨c :: rest, pos, false⟩ =
      .ok ({ b with level := b.level.push (.literal ⟨⟨pos, pos.past c⟩, c, false⟩) },
        ⟨rest, pos.past c, false⟩) := by
  rw [step, primitive_plain hc]
  · rfl
  all_goals
    rintro rfl
    exact absurd (by decide) hc

/-- **Reading characters that are no signs** puts one literal for each behind the parts that
were there. -/
theorem readAll_plain {cs : List Char} (hcs : IsPlain cs) {fuel : Nat} (hfuel : cs.length ≤ fuel)
    (b : Build) (pos : Position) :
    readAll fuel b ⟨cs, pos, false⟩ =
      finish
        { b with level := { b.level with parts := (literals pos cs).reverse ++ b.level.parts } }
        (cs.foldl Position.past pos) := by
  induction cs generalizing fuel b pos with
  | nil => cases fuel <;> rfl
  | cons c rest ih =>
      obtain ⟨fuel, rfl⟩ : ∃ n, fuel = n + 1 := ⟨fuel - 1, by rw [List.length_cons] at hfuel; omega⟩
      obtain ⟨hc, hrest⟩ := List.forall_mem_cons.mp hcs
      have hread : readAll (fuel + 1) b ⟨c :: rest, pos, false⟩
          = (step b c ⟨c :: rest, pos, false⟩).bind fun next => readAll fuel next.1 next.2 := rfl
      rw [hread, step_plain hc]
      have hnext := ih hrest (Nat.le_of_succ_le_succ hfuel)
        { b with level := b.level.push (.literal ⟨⟨pos, pos.past c⟩, c, false⟩) } (pos.past c)
      simpa [Except.bind, literals, Level.push] using hnext

/-- Literals do not nest, so they are never too deep. -/
theorem checkParts_literals (limit depth : Nat) (pos : Position) (cs : List Char) :
    checkParts limit depth (literals pos cs) = .ok () := by
  induction cs generalizing pos with
  | nil => rfl
  | cons c rest ih => exact ih (pos.past c)

/-- Nor are several literals in a row. -/
theorem checkDepth_row_literals (span : Span) (pos : Position) (cs : List Char) :
    (Syntax.row span (literals pos cs)).checkDepth depthLimit 0 = .ok () := by
  match cs with
  | [] => rfl
  | [_] => rfl
  | c :: d :: rest => exact checkParts_literals depthLimit 1 pos (c :: d :: rest)

/-- Characters that are no signs are read as themselves, one after the other. -/
theorem Syntax.parse_plain {cs : List Char} (hcs : IsPlain cs) :
    Syntax.parse cs =
      .ok (row ⟨.start, cs.foldl Position.past .start⟩ (literals .start cs)) := by
  have hread : readAll (cs.length + 1) ⟨.opening .start, [], []⟩ ⟨cs, .start, false⟩
      = .ok (row ⟨.start, cs.foldl Position.past .start⟩ (literals .start cs)) := by
    rw [readAll_plain hcs (Nat.le_succ cs.length), finish, Level.close, Level.branch_eq_row]
    simp only [Level.opening, List.append_nil, List.reverse_reverse]
  rw [parse, Cursor.ofChars]
  simp only [hread, bind, Except.bind, checkDepth_row_literals]
  rfl

/-! ## What it describes -/

/-- The expression for characters one after the other. -/
def Expr.ofChars : List Char → Expr
  | [] => .nothing
  | [c] => .char (.single c)
  | c :: rest => .seq (.char (.single c)) (ofChars rest)

/-- Characters one after the other are the first of them, and then the others. -/
theorem Expr.ofChars_cons_cons (c d : Char) (rest : List Char) :
    ofChars (c :: d :: rest) = .seq (.char (.single c)) (ofChars (d :: rest)) :=
  rfl

/-- Putting the expressions of characters one after the other makes just that. -/
theorem Expr.sequence_map_single (cs : List Char) :
    sequence (cs.map fun c => .char (.single c)) = ofChars cs := by
  induction cs with
  | nil => rfl
  | cons c rest ih =>
      cases rest with
      | nil => rfl
      | cons d rest =>
          rw [List.map_cons, sequence, ih]
          · cases rest <;> rfl
          · simp
          · simp

/-- Each literal is interpreted as the character that it is, and no flag changes. -/
theorem interpretAll_literals (pos : Position) (cs : List Char) :
    interpretAll .initial (literals pos cs) =
      .ok (cs.map fun c => .char (.single c), .initial) := by
  induction cs generalizing pos with
  | nil => rfl
  | cons c rest ih =>
      have hchar : (Syntax.literal ⟨⟨pos, pos.past c⟩, c, false⟩).interpret .initial
          = .ok (.char (.single c), .initial) := rfl
      rw [literals, interpretAll, hchar]
      simp only [bind, Except.bind, ih (pos.past c)]
      rfl

/-- Literals one after the other describe their characters one after the other. -/
theorem interpret_row_literals (span : Span) (pos : Position) (cs : List Char) :
    (Syntax.row span (literals pos cs)).interpret .initial = .ok (Expr.ofChars cs, .initial) := by
  match cs with
  | [] => rfl
  | [_] => rfl
  | c :: d :: rest =>
      have hrow : Syntax.row span (literals pos (c :: d :: rest))
          = .sequence span (literals pos (c :: d :: rest)) := rfl
      rw [hrow, Syntax.interpret, interpretAll_literals, ← Expr.sequence_map_single]
      rfl

/-! ## How large it is -/

/-- A character takes as many bytes as the library says. -/
theorem Size.length_utf8Bytes (c : Char) : (utf8Bytes c.toNat).length = c.utf8Size := by
  have hle (n : UInt32) : c.val ≤ n ↔ c.toNat ≤ n.toNat := UInt32.le_iff_toNat_le
  simp only [Char.utf8Size, hle, utf8Bytes, apply_ite List.length]
  simp only [List.length_cons, List.length_nil, UInt32.toNat_ofNatLT]
  grind

/-- One state for every byte. -/
theorem Expr.size_ofChars {cs : List Char} (hne : cs ≠ []) :
    (ofChars cs).size = Size.state * (String.ofList cs).utf8ByteSize := by
  have hsingle (c : Char) : (Expr.char (.single c)).size = Size.state * c.utf8Size := by
    simp [size, Size.ofSet, CharSet.single, Size.length_utf8Bytes]
  induction cs with
  | nil => exact absurd rfl hne
  | cons c rest ih =>
      rw [String.ofList_cons, String.utf8ByteSize_append, String.utf8ByteSize_singleton,
        Nat.mul_add]
      cases rest with
      | nil => simpa [ofChars] using hsingle c
      | cons d rest => rw [ofChars_cons_cons, size, hsingle, ih (List.cons_ne_nil d rest)]

/-- **A text without signs is a pattern**, unless it is too long. -/
theorem compile_plain {p : String} (hp : IsPlain p.toList) :
    compile p =
      if Size.frame + Size.state * p.utf8ByteSize ≤ sizeLimit then .ok ⟨p, .ofChars p.toList⟩
      else .error (.tooLarge sizeLimit) := by
  have hcompile : compile p =
      if (Expr.ofChars p.toList).machineSize ≤ sizeLimit then .ok ⟨p, .ofChars p.toList⟩
      else .error (.tooLarge sizeLimit) := by
    simp only [compile, Syntax.parse_plain hp, bind, Except.bind, interpret_row_literals]
    rfl
  rw [hcompile]
  by_cases hempty : p.toList = []
  · obtain rfl := String.toList_eq_nil_iff.mp hempty
    rfl
  · rw [Expr.machineSize, Expr.size_ofChars hempty, String.ofList_toList]

/-! ## Where it fits -/

/-- Where a text goes on with a character and then with others. -/
theorem cons_prefix_drop_iff {text cs : List Char} {c : Char} {i : Nat} :
    c :: cs <+: text.drop i ↔ text[i]? = some c ∧ cs <+: text.drop (i + 1) := by
  rw [List.cons_prefix_iff, ← List.head?_drop, ← List.tail_drop]
  constructor
  · rintro ⟨after, hafter, h⟩
    simp [hafter, h]
  · rintro ⟨hc, h⟩
    exact ⟨(text.drop i).tail, (List.cons_head?_tail hc).symm, h⟩

/-- One character describes the stretches of length one that are it. -/
theorem Expr.spans_single_iff {text : List Char} {c : Char} {i j : Nat} :
    (Expr.char (.single c)).Spans text i j ↔ text[i]? = some c ∧ j = i + 1 := by
  simp only [Spans, CharSet.contains_single, exists_eq_right]

/-- It describes the stretches that are the text. -/
theorem Expr.spans_ofChars_iff {text cs : List Char} {i j : Nat} :
    (ofChars cs).Spans text i j ↔ i ≤ text.length ∧ cs <+: text.drop i ∧ j = i + cs.length := by
  induction cs generalizing i with
  | nil => simp [ofChars, Spans]
  | cons c rest ih =>
      have hinside : text[i]? = some c → i + 1 ≤ text.length := fun h =>
        (List.getElem?_eq_some_iff.mp h).1
      have hlength : i + (c :: rest).length = i + 1 + rest.length := by
        rw [List.length_cons]
        omega
      -- the last character stands by itself, without a sequence around it
      cases rest with
      | nil =>
          rw [ofChars, spans_single_iff, cons_prefix_drop_iff]
          constructor
          · rintro ⟨hc, rfl⟩
            exact ⟨Nat.le_of_succ_le (hinside hc), ⟨hc, List.nil_prefix⟩, rfl⟩
          · rintro ⟨-, ⟨hc, -⟩, rfl⟩
            exact ⟨hc, rfl⟩
      | cons d rest =>
          rw [ofChars_cons_cons, Spans, cons_prefix_drop_iff]
          simp only [spans_single_iff, ih]
          constructor
          · rintro ⟨k, ⟨hc, rfl⟩, -, hrest, rfl⟩
            exact ⟨Nat.le_of_succ_le (hinside hc), ⟨hc, hrest⟩, hlength.symm⟩
          · rintro ⟨-, ⟨hc, hrest⟩, rfl⟩
            exact ⟨i + 1, ⟨hc, rfl⟩, hinside hc, hrest, hlength⟩

/-- **Looking for characters one after the other** finds them where they stand as a piece of
the text. -/
theorem Expr.occursIn_ofChars_iff {cs text : List Char} :
    (ofChars cs).occursIn text = true ↔ cs <:+: text := by
  rw [occursIn_iff, List.infix_iff_prefix_suffix]
  simp only [spans_ofChars_iff]
  constructor
  · rintro ⟨i, -, -, -, h, -⟩
    exact ⟨text.drop i, h, List.drop_suffix i text⟩
  · rintro ⟨after, h, before, rfl⟩
    refine ⟨before.length, _, by simp, by simp, by simpa using h, rfl⟩

end Pattern

end BookCensus
