import BookCensus.Html.Parser
import BookCensus.Proofs.BookRequests
import BookCensus.Proofs.QuotationMarks
import BookCensus.Proofs.SectionOrder

/-!
# Selectors as they are sent

The selector of a request has double quotes where the raw one has single quotes.  It is
cut at the same marker, and its parts are those of the raw selector, sent in the same
way.  What becomes of the parts is another matter: a structural one keeps its meaning
when its single quotes are nothing but the marks of strings, and the argument of
`:hasText` is no selector at all, so every quote in it counts.

* `Hybrid.parse_requoted` — the parts of a selector that is sent;
* `Structural.compile_requoted` — when a structural part keeps its meaning;
* `Plan.matchSet_ofRequest` — hence when a plan has the same matches.
-/

namespace BookCensus

open Document Text

/-! ## Searching and cutting -/

namespace Text

variable {part : List Char}

/-- A piece without quotation marks is at the front before and after, with the same text behind
it. -/
theorem isPrefixOf?_requote (hsingle : '\'' ∉ part) (hdouble : '"' ∉ part) (cs : List Char) :
    part.isPrefixOf? (requote cs) = (part.isPrefixOf? cs).map requote := by
  induction part generalizing cs with
  | nil => rfl
  | cons p rest ih =>
      rw [List.mem_cons, not_or] at hsingle hdouble
      cases cs with
      | nil => rfl
      | cons c cs =>
          have hsame : (p == requoteChar c) = (p == c) := by
            rw [Bool.eq_iff_iff, beq_iff_eq, beq_iff_eq, eq_comm,
              requoteChar_eq_iff (Ne.symm hsingle.1) (Ne.symm hdouble.1), eq_comm]
          rw [requote_cons, List.isPrefixOf?, List.isPrefixOf?, hsame, ih hsingle.2 hdouble.2]
          split <;> rfl

/-- So a text is cut at the same place. -/
theorem cut?_requote (hsingle : '\'' ∉ part) (hdouble : '"' ∉ part) (cs : List Char) :
    cut? part (requote cs) = (cut? part cs).map (Prod.map requote requote) := by
  induction cs with
  | nil =>
      rw [requote_nil, cut?]
      split <;> rfl
  | cons c cs ih =>
      have hprefix := isPrefixOf?_requote hsingle hdouble (c :: cs)
      rw [requote_cons] at hprefix ⊢
      rw [cut?, cut?, hprefix, ih]
      cases part.isPrefixOf? (c :: cs) with
      | some after => rfl
      | none =>
          cases cut? part cs with
          | none => rfl
          | some parts => rfl

/-- And the piece occurs before and after, or not at all. -/
theorem occursIn_requote (hsingle : '\'' ∉ part) (hdouble : '"' ∉ part) (cs : List Char) :
    occursIn part (requote cs) = occursIn part cs := by
  induction cs with
  | nil => rfl
  | cons c cs ih =>
      have hprefix := isPrefixOf?_requote hsingle hdouble (c :: cs)
      rw [requote_cons] at hprefix ⊢
      rw [occursIn, occursIn, ih, isPrefixOf_eq_isSome, isPrefixOf_eq_isSome, hprefix,
        Option.isSome_map]

/-- No quotation mark is blank, so the blanks at the end are the same ones. -/
theorem dropBlankEnd_requote (cs : List Char) :
    dropBlankEnd (requote cs) = requote (dropBlankEnd cs) := by
  have hreverse : ∀ cs : List Char, (requote cs).reverse = requote cs.reverse :=
    fun cs => List.map_reverse.symm
  rw [dropBlankEnd, hreverse, dropWhile_requote (by decide), hreverse, dropBlankEnd]

/-- So are the blanks at both ends. -/
theorem trimBlank_requote (cs : List Char) : trimBlank (requote cs) = requote (trimBlank cs) := by
  rw [trimBlank, dropWhile_requote (by decide), dropBlankEnd_requote, trimBlank]

/-- A text as it is sent. -/
def requoted (s : String) : String :=
  substitute '\'' '"' s

/-- A text is sent as its characters are. -/
theorem toList_requoted (s : String) : (requoted s).toList = requote s.toList :=
  toList_substitute '\'' '"' s

/-- Characters that are sent make the text that is sent. -/
theorem requoted_ofList (cs : List Char) :
    requoted (String.ofList cs) = String.ofList (requote cs) := by
  rw [← String.toList_inj, toList_requoted, String.toList_ofList, String.toList_ofList]

end Text

/-! ## The parts of a selector -/

/-- An operator as it is sent. -/
def PseudoOperator.requoted : PseudoOperator → PseudoOperator
  | .none => .none
  | .has inner => .has (Text.requoted inner)
  | .hasText pattern => .hasText (Text.requoted pattern)

namespace Hybrid

/-- A hybrid selector with its parts as they are sent. -/
def requoted (h : Hybrid) : Hybrid :=
  ⟨Text.requoted h.base, h.operator.requoted⟩

/-- There is no quotation mark in a marker. -/
theorem quotes_notMem_text (m : Marker) : '\'' ∉ m.text.toList ∧ '"' ∉ m.text.toList := by
  cases m <;> decide

/-- A selector is cut at the same marker in the same place. -/
theorem cutMarker?_requote (cs : List Char) :
    cutMarker? (requote cs)
      = (cutMarker? cs).map fun (m, before, after) => (m, requote before, requote after) := by
  obtain ⟨hsingle, hdouble⟩ := quotes_notMem_text .hasText
  obtain ⟨hsingle', hdouble'⟩ := quotes_notMem_text .has
  rw [cutMarker?, cutMarker?, cut?_requote hsingle hdouble, cut?_requote hsingle' hdouble']
  cases cut? Marker.hasText.text.toList cs with
  | some parts => rfl
  | none =>
      cases cut? Marker.has.text.toList cs with
      | some parts => rfl
      | none => rfl

/-- The argument stands between the same parentheses. -/
theorem argument?_requote (rest : List Char) :
    argument? (requote rest) = (argument? rest).map requote := by
  rw [argument?, argument?, dropBlankEnd_requote]
  rcases dropBlankEnd rest with _ | ⟨c, inside⟩
  · rfl
  by_cases hopen : c = '('
  · subst hopen
    have hclose : (requote inside).getLast? = some ')' ↔ inside.getLast? = some ')' := by
      rw [requote, List.getLast?_map, Option.map_eq_some_iff]
      simp only [requoteChar_eq_iff (d := ')') (by decide) (by decide), exists_eq_right]
    have hinside : (requote inside).dropLast = requote inside.dropLast := List.map_dropLast.symm
    rw [requote_cons_of_ne (by decide)]
    by_cases hlast : inside.getLast? = some ')'
    · simp only [if_pos hlast, if_pos (hclose.mpr hlast), hinside, Option.map_some]
    · simp only [if_neg hlast, if_neg (mt hclose.mp hlast), Option.map_none]
  · have hother : requoteChar c ≠ '(' :=
      mt (requoteChar_eq_iff (by decide) (by decide)).mp hopen
    rw [requote_cons]
    simp [hopen, hother]

/-- **What is sent is cut at the same places.**  Its parts are those of the raw selector
as they are sent, and it is refused for the same reason. -/
theorem parse_requoted (s : String) : parse (Text.requoted s) = (parse s).map requoted := by
  have hempty : (Text.requoted s).isEmpty = s.isEmpty := by
    rw [Bool.eq_iff_iff, String.isEmpty_iff, String.isEmpty_iff, ← String.toList_eq_nil_iff,
      toList_requoted, ← String.toList_eq_nil_iff]
    exact List.map_eq_nil_iff
  rw [parse, parse, hempty, toList_requoted, cutMarker?_requote]
  split
  · rfl
  cases cutMarker? s.toList with
  | none => rfl
  | some parts =>
      obtain ⟨marker, before, after⟩ := parts
      obtain ⟨hsingle, hdouble⟩ := quotes_notMem_text marker
      simp only [Option.map_some, occursIn_requote hsingle hdouble, argument?_requote]
      split
      · rfl
      cases argument? after with
      | none => rfl
      | some argument =>
          simp only [Option.map_some, Except.map, requoted, requoted_ofList]
          cases marker <;> simp [Marker.operator, PseudoOperator.requoted, requoted_ofList]

end Hybrid

/-! ## Plans -/

/-- The single quotes in a structural selector are in comments, or mark strings that have
neither mark inside but for double ones behind a backslash. -/
def Structural.keepsQuotes (source : String) : Bool :=
  (Css.lexemes (trimBlank source.toList)).all Css.Lexeme.keepsQuotes

/-- No quotes but such as keep the meaning of the structural parts, and none in the argument of
`:hasText`. -/
def Hybrid.keepsQuotes (h : Hybrid) : Bool :=
  Structural.keepsQuotes h.base &&
    match h.operator with
    | .none => true
    | .has inner => Structural.keepsQuotes inner
    | .hasText pattern => !pattern.toList.contains '\''

/-- A selector list is read from its tokens, so it is read as the same one where these stay. -/
theorem Css.SelectorList.parse?_requote {cs : List Char}
    (h : ∀ l ∈ Css.lexemes cs, l.keepsQuotes = true) :
    Css.SelectorList.parse? (requote cs) = Css.SelectorList.parse? cs := by
  rw [Css.SelectorList.parse?, Css.SelectorList.parse?, Css.ofText_requote h, length_requote]

/-- **Structural parts.**  One that keeps its quotes is read as the same selectors when it
is sent. -/
theorem Structural.compile_requoted [Css.Wording] {source : String} {part : Structural}
    (h : compile source = .ok part) (hkeeps : keepsQuotes source = true) :
    ∃ part', compile (requoted source) = .ok part' ∧ part'.list = part.list := by
  have hsame := Css.SelectorList.parse?_requote (List.all_eq_true.mp hkeeps)
  refine ⟨⟨requoted source, part.list⟩, compile_eq_ok_iff.mpr ⟨rfl, ?_⟩, rfl⟩
  rw [toList_requoted, trimBlank_requote, hsame]
  exact (compile_eq_ok_iff.mp h).2

namespace Plan

/-- A plan is its selector with both parts read. -/
theorem parse_eq_ok_iff [Css.Wording] {s : String} {mode : TextMatch} {p : Plan} :
    parse s mode = .ok p ↔
      Hybrid.parse s = .ok p.selector ∧
        Structural.compile p.selector.base = .ok p.base ∧
        filterOf mode p.selector.operator = .ok p.filter := by
  constructor
  · intro h
    obtain ⟨selector, hselector, hcompile⟩ := exists_ok_of_bind h
    obtain ⟨base, hbase, hrest⟩ := exists_ok_of_bind hcompile
    obtain ⟨filter, hfilter, hplan⟩ := exists_ok_of_bind hrest
    cases hplan
    exact ⟨hselector, hbase, hfilter⟩
  · rintro ⟨hselector, hbase, hfilter⟩
    exact bind_eq_ok hselector (bind_eq_ok hbase (bind_eq_ok hfilter rfl))

/-- A filter that keeps its quotes lets the same elements pass when it is sent. -/
theorem filterOf_requoted [Css.Wording] {h : Hybrid} {mode : TextMatch} {filter : MatchFilter}
    (hfilter : filterOf mode h.operator = .ok filter) (hkeeps : h.keepsQuotes = true) :
    ∃ filter', filterOf mode h.operator.requoted = .ok filter' ∧
      ∀ e, filter'.passes e = filter.passes e := by
  obtain ⟨base, operator⟩ := h
  rw [Hybrid.keepsQuotes, Bool.and_eq_true] at hkeeps
  cases operator with
  | none => exact ⟨filter, hfilter, fun _ => rfl⟩
  | has inner =>
      cases hinner : Structural.compile inner with
      | error e =>
          rw [filterOf, hinner] at hfilter
          cases hfilter
      | ok part =>
          rw [filterOf, hinner] at hfilter
          cases hfilter
          obtain ⟨part', hpart', hlist⟩ := Structural.compile_requoted hinner hkeeps.2
          refine ⟨.hasDescendant part', ?_, fun e => ?_⟩
          · rw [PseudoOperator.requoted, filterOf, hpart']
            rfl
          · rw [MatchFilter.passes, MatchFilter.passes, hlist]
  | hasText pattern =>
      have hquote : '\'' ∉ pattern.toList := by simpa using hkeeps.2
      refine ⟨filter, ?_, fun _ => rfl⟩
      rw [PseudoOperator.requoted, requoted, substitute_of_notMem hquote]
      exact hfilter

/-- **Selectors in requests.**  Let a selector be read as a plan.  As it is sent, it is cut
into the same parts.  When the single quotes in its structural parts only mark strings,
with neither mark inside, and there is none in the argument of `:hasText`, what is sent
is read as a plan with the same matches in every section. -/
theorem matchSet_ofRequest [Css.Wording] {s : String} {mode : TextMatch} {p : Plan}
    (h : parse s mode = .ok p) (name : String) :
    Hybrid.parse (Query.ofRequest name s).selector = .ok p.selector.requoted ∧
    (p.selector.keepsQuotes = true →
      ∃ p', parse (Query.ofRequest name s).selector mode = .ok p' ∧
        ∀ page, p'.matchSet page = p.matchSet page) := by
  obtain ⟨hselector, hbase, hfilter⟩ := parse_eq_ok_iff.mp h
  have hsent : Hybrid.parse (Query.ofRequest name s).selector = .ok p.selector.requoted := by
    change Hybrid.parse (requoted s) = _
    rw [Hybrid.parse_requoted, hselector]
    rfl
  refine ⟨hsent, fun hkeeps => ?_⟩
  have hbasekeeps : Structural.keepsQuotes p.selector.base = true :=
    (Bool.and_eq_true_iff.mp hkeeps).1
  obtain ⟨base, hbase', hlist⟩ := Structural.compile_requoted hbase hbasekeeps
  obtain ⟨filter, hfilter', hpasses⟩ := filterOf_requoted hfilter hkeeps
  refine ⟨⟨p.selector.requoted, base, filter⟩,
    parse_eq_ok_iff.mpr ⟨hsent, hbase', hfilter'⟩, fun page => ?_⟩
  rw [matchSet, matchSet, hlist]
  exact List.filter_congr fun e _ => hpasses e

/-- A selector with quotes of both kinds: around strings, one of which has a double quote
behind a backslash in it, and in a comment. -/
def quotedSelector : String :=
  "[title='a \\\"b'], div[data-type=\"note\"] /* it's */ :has(img[alt='x'])"

/-- An attribute in single quotes in the base, and a pattern without any. -/
theorem matchSet_ofRequest_quoted :
    ∃ p p', parse quotedSelector .pattern = .ok p ∧
      parse (Query.ofRequest "B" quotedSelector).selector .pattern = .ok p' ∧
      ∀ page, p'.matchSet page = p.matchSet page := by
  have hread : (parse quotedSelector .pattern).toOption.any (fun p => p.selector.keepsQuotes)
      = true := by
    decide +kernel
  obtain ⟨p, hp, hkeeps⟩ := exists_ok_of_any hread
  obtain ⟨p', hp', hsame⟩ := (matchSet_ofRequest hp "B").2 hkeeps
  exact ⟨p, p', hp, hp', hsame⟩

/-- A page with one paragraph. -/
def apostrophePage : Tree :=
  Html.parse "<div data-type='page'><p>it's</p></div>"

/-- The argument of `:hasText` is sent with another quote, and then nothing has that text;
and a double-quoted string with a single quote inside is no selector when it is sent. -/
theorem exists_matchSet_ofRequest_ne :
    (∃ p p' page, parse "p:hasText(it's)" .substring = .ok p ∧
      parse (Query.ofRequest "B" "p:hasText(it's)").selector .substring = .ok p' ∧
      page ∈ apostrophePage.sections ∧ p'.matchSet page ≠ p.matchSet page) ∧
    ∃ p e, parse "[title=\"it's\"]" .substring = .ok p ∧
      parse (Query.ofRequest "B" "[title=\"it's\"]").selector .substring = .error e := by
  constructor
  · have hpage : (apostrophePage.at? [0, 1, 0]).any (fun page => page.isSection &&
        (parse "p:hasText(it's)" .substring).toOption.any fun p =>
          (parse (Query.ofRequest "B" "p:hasText(it's)").selector .substring).toOption.any fun p' =>
            !(p.matchSet page).isEmpty && (p'.matchSet page).isEmpty) = true := by
      decide +kernel
    obtain ⟨page, hroute, hrest⟩ := (Option.any_eq_true _ _).mp hpage
    obtain ⟨hsection, hplans⟩ := Bool.and_eq_true_iff.mp hrest
    obtain ⟨p, hp, hplan⟩ := exists_ok_of_any hplans
    obtain ⟨p', hp', hmatches⟩ := exists_ok_of_any hplan
    obtain ⟨hsome, hnone⟩ := Bool.and_eq_true_iff.mp hmatches
    have hplace : page ∈ apostrophePage.places :=
      (apostrophePage.mem_places_iff page).mpr ⟨_, hroute⟩
    refine ⟨p, p', page, hp, hp', ?_, ?_⟩
    · rw [Tree.sections, List.mem_mergeSort, List.mem_filter]
      exact ⟨List.mem_append_left _ hplace, hsection⟩
    · intro hsame
      rw [hsame] at hnone
      simp [hnone] at hsome
  · have hraw : (parse "[title=\"it's\"]" .substring).toOption.any (fun _ => true) = true := by
      decide +kernel
    have hsent : (parse (Query.ofRequest "B" "[title=\"it's\"]").selector
        .substring).toOption.isNone = true := by
      decide +kernel
    obtain ⟨p, hp, -⟩ := exists_ok_of_any hraw
    obtain ⟨e, he⟩ := exists_error_of_isNone hsent
    exact ⟨p, e, hp, he⟩

end Plan

end BookCensus
