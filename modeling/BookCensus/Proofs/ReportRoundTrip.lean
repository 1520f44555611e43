import BookCensus.Json.Printer
import BookCensus.Proofs.JsonGrammar
import BookCensus.Proofs.MemberNames

/-!
# Reports as text

A report is written as JSON on one line or over several.  Both layouts write the same
value in the grammar of `Denotes`: they put different spaces around elements, and
nothing else in a text may vary.  So each text is read as that value, and the value
says everything about the report as long as no further member of the book hides
behind a fixed one.

Floating-point numbers are left out: their text is chosen so that it reads back, but
that is a matter of arithmetic and not of the grammar.

* `denotes_compact`, `denotes_pretty` — what either layout writes denotes the value;
* `Report.ofJson?_toJson` — the members of a report give it back;
* `report_text_lossless` — hence nothing is lost in a text.
-/

namespace BookCensus

open Text

namespace Json

/-! ## Integers -/

/-- The digits of numbers in answers are those of the library. -/
theorem isDigit_eq (c : Char) : isDigit c = c.isDigit := by
  rw [isDigit, Char.isDigit]
  rfl

/-- A number that is written in digits is read as itself. -/
theorem decimalValue_toDigits (n : Nat) : decimalValue (Nat.toDigits 10 n) = n := by
  have hsame : decimalValue (Nat.toDigits 10 n) = Nat.ofDigitChars 10 (Nat.toDigits 10 n) 0 := by
    rw [decimalValue, Nat.ofDigitChars]
    simp only [Nat.mul_comm 10]
  rw [hsame, Nat.ofDigitChars_toDigits (by decide) (by decide)]

/-- What is written for a number are digits, at least one. -/
theorem digits_toDigits (n : Nat) : Digits (Nat.toDigits 10 n) := by
  refine ⟨Nat.toDigits_ne_nil, ?_⟩
  intro d hd
  rw [isDigit_eq]
  exact Nat.isDigit_of_mem_toDigits (by decide) (by decide) hd

/-- No zero stands in front of the digits of a number. -/
theorem head?_toDigits_of_pos {n : Nat} (hn : 0 < n) :
    (Nat.toDigits 10 n).head? ≠ some '0' := by
  induction n using Nat.strongRecOn with
  | ind n ih =>
      by_cases hlt : n < 10
      · rw [Nat.toDigits_of_lt_base hlt, List.head?_cons, Ne, Option.some.injEq,
          Nat.digitChar_eq_zero]
        omega
      · rw [Nat.toDigits_of_base_le (by decide) (by omega),
          List.head?_append_of_ne_nil _ Nat.toDigits_ne_nil]
        exact ih (n / 10) (by omega) (by omega)

/-- They do not begin with a zero, unless that is the only one. -/
theorem whole_toDigits (n : Nat) : Whole (Nat.toDigits 10 n) := by
  refine ⟨digits_toDigits n, ?_⟩
  intro hzero
  rcases Nat.eq_zero_or_pos n with rfl | hn
  · rfl
  · exact absurd hzero (head?_toDigits_of_pos hn)

/-- An integer is written as a number with neither fraction nor exponent. -/
theorem numeral_intChars (n : Int) : Numeral (intChars n) (.int n) := by
  have hnumeral : ∀ (mark : List Char) (negative : Bool) (m : Nat),
      (mark, negative) ∈ numberSigns →
      Numeral (mark ++ (Nat.toDigits 10 m ++ ([] ++ [])))
        (.int (if negative then -(m : Int) else m)) := by
    intro mark negative m hmark
    refine .parts hmark (whole_toDigits m) .none .none ?_
    simp [numberValue?, decimalValue_toDigits]
  cases n with
  | ofNat m =>
      have htext : intChars (.ofNat m) = [] ++ (Nat.toDigits 10 m ++ ([] ++ [])) := by
        rw [List.append_nil, List.append_nil]
        exact Nat.toList_repr
      rw [htext]
      exact hnumeral [] false m (by simp [numberSigns])
  | negSucc m =>
      have htext : intChars (.negSucc m) = ['-'] ++ (Nat.toDigits 10 (m + 1) ++ ([] ++ [])) := by
        change ("-" ++ Nat.repr (m + 1)).toList = _
        rw [String.toList_append, Nat.toList_repr, List.append_nil, List.append_nil]
        rfl
      rw [htext]
      exact hnumeral ['-'] true (m + 1) (by simp [numberSigns])

/-! ## Strings -/

/-- A digit in base sixteen is read as what it was written for. -/
theorem hexValue?_hexDigit {n : Nat} (hn : n < 16) : hexValue? (hexDigit n) = some n := by
  revert n
  decide

/-- A character is written in one of its spellings. -/
theorem spelling_escapeChar (c : Char) : Spelling (escapeChar c) c := by
  have hletter : ∀ {e d : Char}, (e, d) ∈ escapeLetters → (c == d) = true →
      Spelling ['\\', e] c := by
    intro e d h hc
    rw [beq_iff_eq.mp hc]
    exact .letter h
  rw [escapeChar]
  split
  · next hc => exact hletter (by decide) hc
  split
  · next hc => exact hletter (by decide) hc
  split
  · next hc => exact hletter (by decide) hc
  split
  · next hc => exact hletter (by decide) hc
  split
  · next hc => exact hletter (by decide) hc
  split
  · next hc => exact hletter (by decide) hc
  split
  · next hc => exact hletter (by decide) hc
  split
  · next hcontrol =>
      have hcode : 0 * 4096 + 0 * 256 + c.toNat / 16 * 16 + c.toNat % 16 = c.toNat := by omega
      have hquad : Quad ['0', '0', hexDigit (c.toNat / 16), hexDigit (c.toNat % 16)]
          (0 * 4096 + 0 * 256 + c.toNat / 16 * 16 + c.toNat % 16) :=
        .digits rfl rfl (hexValue?_hexDigit (by omega)) (hexValue?_hexDigit (by omega))
      rw [hcode] at hquad
      exact .code hquad
  · next hquote hbackslash _ _ _ _ _ hcontrol =>
      exact .plain (by omega) (by simpa using hquote) (by simpa using hbackslash)

/-- Written one by one, the characters of a text spell the text. -/
theorem contents_escapeChar (s : List Char) : Contents (s.flatMap escapeChar) s := by
  induction s with
  | nil => exact .nil
  | cons c rest ih =>
      rw [List.flatMap_cons]
      exact .cons (spelling_escapeChar c) ih

/-- A text in quotation marks denotes the text. -/
theorem quoted_quoteChars (s : String) : Quoted (quoteChars s.toList) s := by
  have h := Quoted.marks (contents_escapeChar s.toList)
  rwa [String.ofList_toList] at h

/-! ## Values in either layout -/

mutual

/-- No floating-point number in a value. -/
def floatFree : Json → Bool
  | .float _ => false
  | .array items => allFloatFree items
  | .object members => membersFloatFree members
  | _ => true

/-- No floating-point number in any of several values. -/
def allFloatFree : List Json → Bool
  | [] => true
  | v :: rest => v.floatFree && allFloatFree rest

/-- No floating-point number in the values of several members. -/
def membersFloatFree : List (String × Json) → Bool
  | [] => true
  | (_, v) :: rest => v.floatFree && membersFloatFree rest

end

/-- A list has no floating numbers in it when none of its items has. -/
theorem allFloatFree_iff {items : List Json} :
    allFloatFree items = true ↔ ∀ v ∈ items, v.floatFree = true := by
  induction items with
  | nil => simp [allFloatFree]
  | cons v rest ih => rw [allFloatFree, Bool.and_eq_true, ih, List.forall_mem_cons]

/-- An object has none in it when none of its members has. -/
theorem membersFloatFree_iff {members : List (String × Json)} :
    membersFloatFree members = true ↔ ∀ m ∈ members, m.2.floatFree = true := by
  induction members with
  | nil => simp [membersFloatFree]
  | cons m rest ih => rw [membersFloatFree, Bool.and_eq_true, ih, List.forall_mem_cons]

/-- An item may stand without spaces around it. -/
theorem ElementText.of_value {cs : List Char} {v : Json} (h : ValueText cs v) :
    ElementText cs v := by
  have hspaced := ElementText.spaced spacing_nil h spacing_nil
  rwa [List.nil_append, List.append_nil] at hspaced

mutual

/-- Written on one line, a value denotes itself.  The three results on one line follow the three
ways in which values nest. -/
theorem valueText_compactChars : ∀ v : Json, v.floatFree = true → ValueText v.compactChars v
  | .null, _ => .null
  | .bool true, _ => .affirmed
  | .bool false, _ => .denied
  | .int n, _ => .number (numeral_intChars n)
  | .float _, h => nomatch h
  | .string s, _ => .string (quoted_quoteChars s)
  | .array [], _ => .emptyArray spacing_nil
  | .array (v :: rest), h => .array (itemsText_compactItems (v :: rest) (List.cons_ne_nil _ _) h)
  | .object [], _ => .emptyObject spacing_nil
  | .object (m :: rest), h =>
      .object (membersText_compactMembers (m :: rest) (List.cons_ne_nil _ _) h)

/-- Written on one line, the items of a list denote the items. -/
theorem itemsText_compactItems : ∀ vs : List Json, vs ≠ [] → allFloatFree vs = true →
    ItemsText (compactItems vs) vs
  | [], hne, _ => absurd rfl hne
  | [v], _, h => by
      obtain ⟨hv, -⟩ := Bool.and_eq_true_iff.mp h
      exact .last (.of_value (valueText_compactChars v hv))
  | v :: w :: rest, _, h => by
      obtain ⟨hv, hrest⟩ := Bool.and_eq_true_iff.mp h
      exact .more (.of_value (valueText_compactChars v hv))
        (itemsText_compactItems (w :: rest) (List.cons_ne_nil _ _) hrest)

/-- Written on one line, the members of an object denote the members. -/
theorem membersText_compactMembers : ∀ ms : List (String × Json), ms ≠ [] →
    membersFloatFree ms = true → MembersText (compactMembers ms) ms
  | [], hne, _ => absurd rfl hne
  | [(k, v)], _, h => by
      obtain ⟨hv, -⟩ := Bool.and_eq_true_iff.mp h
      exact .last (.named spacing_nil (quoted_quoteChars k) spacing_nil
        (.of_value (valueText_compactChars v hv)))
  | (k, v) :: m :: rest, _, h => by
      obtain ⟨hv, hrest⟩ := Bool.and_eq_true_iff.mp h
      have hmember : MemberText (quoteChars k.toList ++ ':' :: v.compactChars) (k, v) :=
        .named spacing_nil (quoted_quoteChars k) spacing_nil
          (.of_value (valueText_compactChars v hv))
      have hmembers := MembersText.more hmember
        (membersText_compactMembers (m :: rest) (List.cons_ne_nil _ _) hrest)
      rwa [List.append_assoc, List.cons_append] at hmembers

end

/-- A line end and the indentation behind it are spaces. -/
theorem spacing_newline (level : Nat) : Spacing (newline level) := by
  intro c hc
  rcases List.mem_cons.mp hc with rfl | hc
  · rfl
  · rw [List.eq_of_mem_replicate hc]
    rfl

/-- A space may stand between what belongs together. -/
theorem spacing_blank : Spacing [' '] := by
  intro c hc
  rw [List.mem_singleton.mp hc]
  rfl

mutual

/-- Written over several lines, a value denotes itself, at every level. -/
theorem valueText_prettyChars : ∀ (v : Json) (level : Nat), v.floatFree = true →
    ValueText (v.prettyChars level) v
  | .null, _, _ => .null
  | .bool true, _, _ => .affirmed
  | .bool false, _, _ => .denied
  | .int n, _, _ => .number (numeral_intChars n)
  | .float _, _, h => nomatch h
  | .string s, _, _ => .string (quoted_quoteChars s)
  | .array [], _, _ => .emptyArray spacing_nil
  | .array (v :: rest), level, h => by
      have hitems := itemsText_prettyItems (v :: rest) (List.cons_ne_nil _ _) h (level + 1)
        (spacing_newline (level + 1)) (spacing_newline level)
      rw [prettyChars, List.append_assoc (newline (level + 1))]
      exact .array hitems
  | .object [], _, _ => .emptyObject spacing_nil
  | .object (m :: rest), level, h => by
      have hmembers := membersText_prettyMembers (m :: rest) (List.cons_ne_nil _ _) h (level + 1)
        (spacing_newline (level + 1)) (spacing_newline level)
      rw [prettyChars, List.append_assoc (newline (level + 1))]
      exact .object hmembers

/-- Items on lines of their own, with space before the first and after the last. -/
theorem itemsText_prettyItems : ∀ vs : List Json, vs ≠ [] → allFloatFree vs = true →
    ∀ (level : Nat) {before after : List Char}, Spacing before → Spacing after →
      ItemsText (before ++ (prettyItems level vs ++ after)) vs
  | [], hne, _, _, _, _, _, _ => absurd rfl hne
  | [v], _, h, level, before, after, hbefore, hafter => by
      obtain ⟨hv, -⟩ := Bool.and_eq_true_iff.mp h
      exact .last (.spaced hbefore (valueText_prettyChars v level hv) hafter)
  | v :: w :: rest, _, h, level, before, after, hbefore, hafter => by
      obtain ⟨hv, hrest⟩ := Bool.and_eq_true_iff.mp h
      have hitems := ItemsText.more
        (.spaced hbefore (valueText_prettyChars v level hv) spacing_nil)
        (itemsText_prettyItems (w :: rest) (List.cons_ne_nil _ _) hrest level
          (spacing_newline level) hafter)
      simpa [prettyItems] using hitems

/-- Members on lines of their own, with space before the first and after the last. -/
theorem membersText_prettyMembers : ∀ ms : List (String × Json), ms ≠ [] →
    membersFloatFree ms = true →
    ∀ (level : Nat) {before after : List Char}, Spacing before → Spacing after →
      MembersText (before ++ (prettyMembers level ms ++ after)) ms
  | [], hne, _, _, _, _, _, _ => absurd rfl hne
  | [(k, v)], _, h, level, before, after, hbefore, hafter => by
      obtain ⟨hv, -⟩ := Bool.and_eq_true_iff.mp h
      have hmember := MemberText.named hbefore (quoted_quoteChars k) spacing_nil
        (.spaced spacing_blank (valueText_prettyChars v level hv) hafter)
      simpa [prettyMembers] using MembersText.last hmember
  | (k, v) :: m :: rest, _, h, level, before, after, hbefore, hafter => by
      obtain ⟨hv, hrest⟩ := Bool.and_eq_true_iff.mp h
      have hmember := MemberText.named hbefore (quoted_quoteChars k) spacing_nil
        (.spaced spacing_blank (valueText_prettyChars v level hv) spacing_nil)
      have hmembers := MembersText.more hmember
        (membersText_prettyMembers (m :: rest) (List.cons_ne_nil _ _) hrest level
          (spacing_newline level) hafter)
      simpa [prettyMembers] using hmembers

end

/-- The text on one line denotes the value. -/
theorem denotes_compact {v : Json} (h : v.floatFree = true) : Denotes v.compact v := by
  rw [Denotes, compact, String.toList_ofList]
  exact .of_value (valueText_compactChars v h)

/-- The text over several lines denotes the value. -/
theorem denotes_pretty {v : Json} (h : v.floatFree = true) : Denotes v.pretty v := by
  rw [Denotes, pretty, String.toList_ofList]
  exact .of_value (valueText_prettyChars v 0 h)

/-- The two texts of a value. -/
def texts (v : Json) : List String :=
  [v.compact, v.pretty]

/-- Either way of writing denotes the value. -/
theorem denotes_of_mem_texts {v : Json} (h : v.floatFree = true) {text : String}
    (htext : text ∈ v.texts) : Denotes text v := by
  rcases List.mem_pair.mp htext with rfl | rfl
  · exact denotes_compact h
  · exact denotes_pretty h

/-! ## Values read as what they were made of -/

/-- A text or, where it is missing, `null`. -/
def text? : Json → Option (Option String)
  | .null => some none
  | .string s => some (some s)
  | _ => none

/-- A number of things. -/
def count? : Json → Option Nat
  | .int (.ofNat n) => some n
  | _ => none

/-- The members of an object whose names are none of some fixed ones. -/
def furtherMembers (fixed : List String) : Json → List (String × Json)
  | .object members => members.filter fun m => m.1 ∉ fixed
  | _ => []

/-- A text that may be missing is read back, as is that it is missing. -/
theorem text?_orNull (t : Option String) : (orNull .string t).text? = some t := by
  cases t <;> rfl

end Json

/-- A result of one section from its members. -/
def SectionResult.ofJson? (v : Json) : Option SectionResult := do
  let title ← (← v.member? "section_name").text?
  let link ← (← v.member? "link").text?
  let instances ← (← v.member? "instances").count?
  some ⟨title, link, instances⟩

/-- A result is read back from its object. -/
theorem SectionResult.ofJson?_toJson (r : SectionResult) : ofJson? r.toJson = some r := by
  have htitle : r.toJson.member? "section_name" = some (.orNull .string r.title) := rfl
  have hlink : r.toJson.member? "link" = some (.orNull .string r.link) := rfl
  have hinstances : r.toJson.member? "instances" = some (.nat r.instances) := rfl
  have hcount : (Json.nat r.instances).count? = some r.instances := rfl
  simp only [ofJson?, htitle, hlink, hinstances, hcount, Json.text?_orNull, Option.bind_eq_bind,
    Option.bind_some]

/-- So are all results, in order. -/
theorem SectionResult.mapM_ofJson?_toJson (results : List SectionResult) :
    (results.map toJson).mapM ofJson? = some results := by
  induction results with
  | nil => rfl
  | cons r rest ih =>
      rw [List.map_cons, List.mapM_cons, ofJson?_toJson, ih]
      rfl

/-- A result has texts and a whole number in it. -/
theorem SectionResult.floatFree_toJson (r : SectionResult) : r.toJson.floatFree = true := by
  have htext : ∀ t : Option String, (Json.orNull .string t).floatFree = true := by
    intro t
    cases t <;> rfl
  simp [toJson, Json.floatFree, Json.membersFloatFree, htext, Json.nat]

/-- The names of the members that every report has. -/
def Report.fixedNames : List String :=
  ["Results", "bookName", "fileName"]

/-- A report from its members: the fixed ones by their names, and all others as further
members of the book. -/
def Report.ofJson? (v : Json) : Option Report := do
  let .array items ← v.member? "Results" | none
  let .string name ← v.member? "bookName" | none
  let .string file ← v.member? "fileName" | none
  let results ← items.mapM SectionResult.ofJson?
  some ⟨results, ⟨name, file, v.furtherMembers fixedNames⟩⟩

namespace Report

/-- A report whose book has further members in ascending order, under other names than
the fixed ones, and with no floating-point number in them. -/
structure IsPlain (r : Report) : Prop where
  ascending : Json.Ascending r.book.extra
  apart : ∀ name ∈ fixedNames, name ∉ r.book.extra.map Prod.fst
  floatFree : ∀ m ∈ r.book.extra, m.2.floatFree = true

/-- All members but those with fixed names are the further members of the book. -/
theorem furtherMembers_toJson {r : Report} (h : r.IsPlain) :
    r.toJson.furtherMembers fixedNames = r.book.extra := by
  have hkept : ∀ m ∈ r.book.extra, decide (m.1 ∉ fixedNames) = true := by
    intro m hm
    rw [decide_eq_true_eq]
    exact fun hfixed => h.apart m.1 hfixed (List.mem_map_of_mem hm)
  have hall := List.filter_eq_self.mpr hkept
  simpa [toJson, Book.members, Json.furtherMembers, fixedNames] using hall

/-- The members of a report give it back. -/
theorem ofJson?_toJson {r : Report} (h : r.IsPlain) : ofJson? r.toJson = some r := by
  have hresults : r.toJson.member? "Results"
      = some (.array (r.results.map SectionResult.toJson)) := rfl
  have hname : r.toJson.member? "bookName" = some (.string r.book.name) := rfl
  have hfile : r.toJson.member? "fileName" = some (.string r.book.file) := rfl
  simp only [ofJson?, hresults, hname, hfile, SectionResult.mapM_ofJson?_toJson,
    furtherMembers_toJson h, Option.bind_eq_bind, Option.bind_some]

/-- A report has no floating numbers in it when what the catalog says of the book has none. -/
theorem floatFree_toJson {r : Report} (h : r.IsPlain) : r.toJson.floatFree = true := by
  have hresults : Json.allFloatFree (r.results.map SectionResult.toJson) = true := by
    rw [Json.allFloatFree_iff, List.forall_mem_map]
    exact fun result _ => result.floatFree_toJson
  rw [toJson, Json.floatFree, Json.membersFloatFree_iff, List.forall_mem_cons]
  refine ⟨hresults, ?_⟩
  rw [Book.members, List.forall_mem_cons, List.forall_mem_cons]
  exact ⟨rfl, rfl, h.floatFree⟩

end Report

/-- **Nothing is lost in a text.**  Each text of a plain report denotes one value, by the
grammar and by the reader alike.  It is an object with the fixed members in front and
the further ones in ascending order, and its members give the report back.  So reports
with a text in common are equal. -/
theorem report_text_lossless {r : Report} (h : r.IsPlain) :
    (∀ text ∈ r.toJson.texts,
      (∀ v, Json.Denotes text v ↔ v = r.toJson) ∧ Json.parse text = some r.toJson) ∧
    r.toJson.memberNames = ["Results", "bookName", "fileName"] ++ r.book.extra.map Prod.fst ∧
    (r.book.extra.map Prod.fst).Pairwise (· < ·) ∧
    Report.ofJson? r.toJson = some r ∧
    ∀ r' : Report, r'.IsPlain → ∀ text ∈ r.toJson.texts, text ∈ r'.toJson.texts → r' = r := by
  have hdenotes : ∀ text ∈ r.toJson.texts, Json.Denotes text r.toJson :=
    fun text htext => Json.denotes_of_mem_texts (Report.floatFree_toJson h) htext
  refine ⟨?_, rfl, ?_, Report.ofJson?_toJson h, ?_⟩
  · intro text htext
    refine ⟨fun v => ⟨fun hv => hv.unique (hdenotes text htext), ?_⟩,
      Json.parse_of_denotes (hdenotes text htext)⟩
    rintro rfl
    exact hdenotes text htext
  · rw [List.pairwise_map]
    exact h.ascending
  · intro r' h' text htext htext'
    have hdenotes' := Json.denotes_of_mem_texts (Report.floatFree_toJson h') htext'
    have hobject : r'.toJson = r.toJson := hdenotes'.unique (hdenotes text htext)
    have hread := Report.ofJson?_toJson h'
    rw [hobject, Report.ofJson?_toJson h] at hread
    exact (Option.some.inj hread).symm

/-- A report with awkward characters: a section without title, and one whose title has
all that must be escaped. -/
def awkwardReport : Report :=
  ⟨[⟨none, none, 3⟩, ⟨some "a \"b\" \\ \n\x01 😀", none, 0⟩],
    ⟨"", "b.html",
      [("", .null), ("a", .array [.bool true, .int (-20), .object [("Results", .array [])]]),
        ("é", .object [])]⟩⟩

/-- A report with members of all kinds, and with characters that are escaped. -/
theorem report_text_lossless_awkward :
    awkwardReport.IsPlain ∧
    (∀ text ∈ awkwardReport.toJson.texts, Json.parse text = some awkwardReport.toJson) ∧
    Report.ofJson? awkwardReport.toJson = some awkwardReport := by
  have hplain : awkwardReport.IsPlain := by
    refine ⟨?_, ?_, ?_⟩
    · rw [Json.Ascending]
      decide
    · decide
    · decide
  obtain ⟨htexts, -, -, hback, -⟩ := report_text_lossless hplain
  exact ⟨hplain, fun text htext => (htexts text htext).2, hback⟩

end BookCensus
