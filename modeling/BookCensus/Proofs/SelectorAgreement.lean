import BookCensus.Census.Request
import BookCensus.Proofs.HybridGrammar

/-!
# Checking and compiling agree

A selector is checked before a request and compiled for it, by two functions
that split and read it each in its own way.  The check lets everything with
`:hasText` through and reads the parts of any other selector; compiling reads
the parts of every selector, the argument of `:hasText` by the mode.

The main statement, `check_agrees_with_compile`: without `:hasText` the check
accepts what compiling accepts and refuses the rest for the same reason; with it
the check accepts.  So running the check first never changes how compiling ends.
-/

namespace BookCensus

open Text

/-- Without the marker `:hasText` no selector is read as one with that operator. -/
theorem Hybrid.operator_ne_hasText {s : String} {h : Hybrid}
    (hnone : ¬ ":hasText".toList <:+: s.toList) (hparse : Hybrid.parse s = .ok h)
    (pattern : String) : h.operator ≠ .hasText pattern := by
  intro hoperator
  obtain ⟨w, hd⟩ := Hybrid.parse_eq_ok_iff.mp hparse
  rw [Hybrid.Decomposes, hoperator] at hd
  have honce : Marker.hasText.count s = 1 := hd.1
  have hzero : Marker.hasText.count s = 0 := (Marker.hasText.count_eq_zero_iff s).mpr hnone
  omega

/-- Where the check looks for the marker it finds it when it is there. -/
theorem contains_hasText_iff {s : String} :
    contains s Marker.hasText.text = true ↔ ":hasText".toList <:+: s.toList :=
  occursIn_iff

/-! The check and the compiler agree whatever is said of texts that cannot be read. -/

variable [Css.Wording]

/-- A structural part is accepted as the list that its text without the blanks around it is
read as. -/
theorem Structural.compile_eq_ok_iff {source : String} {part : Structural} :
    compile source = .ok part ↔
      part.source = source ∧
        Css.SelectorList.parse? (trimBlank source.toList) = some part.list := by
  rw [compile]
  cases Css.SelectorList.parse? (trimBlank source.toList) with
  | none => simp
  | some list =>
      obtain ⟨source', list'⟩ := part
      simp [eq_comm]

/-- It is refused when that text cannot be read, with what the engine says of it. -/
theorem Structural.compile_eq_error_iff {source : String} {e : SelectorError} :
    compile source = .error e ↔
      Css.SelectorList.parse? (trimBlank source.toList) = none ∧
        e = .malformed source (Css.Wording.complaint (trimBlank source.toList)) := by
  rw [compile]
  cases Css.SelectorList.parse? (trimBlank source.toList) with
  | none => simp [eq_comm]
  | some list => simp

/-- A selector with `:hasText` is let through. -/
theorem checkSelector_of_hasText {s : String} (h : ":hasText".toList <:+: s.toList) :
    checkSelector s = .ok () := by
  have hne : ¬ s.isEmpty = true := by
    intro hempty
    rw [String.isEmpty_iff] at hempty
    subst hempty
    exact absurd h (by decide)
  rw [checkSelector, if_neg hne, if_pos (contains_hasText_iff.mpr h)]

/-- The check reads the parts of any other selector. -/
theorem checkSelector_of_not_hasText {s : String} (h : ¬ ":hasText".toList <:+: s.toList)
    (hne : s ≠ "") :
    checkSelector s = (do
      let selector ← Hybrid.parse s
      let _ ← Structural.compile selector.base
      match selector.operator with
      | .has inner =>
          let _ ← Structural.compile inner
          return ()
      | _ => return ()) := by
  have hempty : ¬ s.isEmpty = true := by
    rwa [String.isEmpty_iff]
  have hcontains : ¬ contains s Marker.hasText.text = true := by
    rwa [contains_hasText_iff]
  exact (if_neg hempty).trans (if_neg hcontains)

/-- **Agreement.**  Without `:hasText` the check ends as compiling does, but for
the plan. -/
theorem checkSelector_eq_map_parse {s : String} (h : ¬ ":hasText".toList <:+: s.toList)
    (mode : TextMatch) : checkSelector s = (Plan.parse s mode).map fun _ => () := by
  by_cases hne : s = ""
  · subst hne
    rfl
  rw [checkSelector_of_not_hasText h hne, Plan.parse]
  cases hparse : Hybrid.parse s with
  | error e => rfl
  | ok selector =>
      obtain ⟨base, operator⟩ := selector
      simp only [bind, Except.bind, Plan.compile, pure, Except.pure]
      cases hbase : Structural.compile base with
      | error e => rfl
      | ok compiled =>
          cases operator with
          | none => rfl
          | hasText pattern =>
              exact absurd rfl (Hybrid.operator_ne_hasText h hparse pattern)
          | has inner =>
              simp only [Plan.filterOf]
              cases Structural.compile inner with
              | error e => rfl
              | ok compiled => rfl

/-- **A check in front changes nothing.** -/
theorem checkSelector_bind_parse (s : String) (mode : TextMatch) :
    (do checkSelector s; Plan.parse s mode) = Plan.parse s mode := by
  by_cases h : ":hasText".toList <:+: s.toList
  · rw [checkSelector_of_hasText h]
    rfl
  · rw [checkSelector_eq_map_parse h mode]
    cases Plan.parse s mode with
    | error e => rfl
    | ok plan => rfl

/-- So a request is prepared by looking up its book and compiling its selector. -/
theorem Query.prepare_eq (q : Query) (catalog : Catalog) (mode : TextMatch) :
    q.prepare catalog mode =
      match catalog.lookup? q.book with
      | none => .error (.unknownSource q.book)
      | some book =>
          match Plan.parse q.selector mode with
          | .error e => .error (.selector e)
          | .ok plan => .ok (book, plan) := by
  have hcheck := checkSelector_bind_parse q.selector mode
  cases hbook : catalog.lookup? q.book with
  | none => simp only [Query.prepare, hbook]
  | some book =>
      cases hplan : Plan.parse q.selector mode with
      | error e =>
          rw [hplan] at hcheck
          simp only [Query.prepare, hbook, hplan, hcheck]
      | ok plan =>
          rw [hplan] at hcheck
          simp only [Query.prepare, hbook, hplan, hcheck]

/-- A request for a known book with a selector that does not compile fails with the
error of the selector, before any book is loaded. -/
theorem Query.answer_of_refused {m : Type → Type} [Monad m] {q : Query} {catalog : Catalog}
    {mode : TextMatch} {book : Book} {e : SelectorError}
    (load : String → m (Except RetrievalError Document.Tree))
    (hbook : catalog.lookup? q.book = some book)
    (hplan : Plan.parse q.selector mode = .error e) :
    q.answer catalog mode load = pure (.error (.selector e)) := by
  have hprepare : q.prepare catalog mode = .error (.selector e) := by
    rw [Query.prepare_eq, hbook]
    simp only [hplan]
  simp only [Query.answer, hprepare]

/-- What the check says of a selector without `:hasText` that does not compile. -/
theorem validateSelector_of_refused {s : String} {mode : TextMatch} {e : SelectorError}
    (h : ¬ ":hasText".toList <:+: s.toList) (hplan : Plan.parse s mode = .error e) :
    validateSelector s = ⟨false, e.message⟩ := by
  rw [validateSelector, checkSelector_eq_map_parse h mode, hplan]
  rfl

/-- **The check and the compiler agree.**  Without `:hasText` the check accepts a
selector exactly when it compiles, refuses it with exactly the error that
compiling ends in, down to the marker, the part and what the engine says of it,
and gives the message that any request with it for a known book fails with; with
`:hasText` it accepts.  In either case compiling after a check ends as compiling
alone. -/
theorem check_agrees_with_compile (s : String) (mode : TextMatch) :
    (¬ ":hasText".toList <:+: s.toList →
      (checkSelector s = .ok () ↔ ∃ plan, Plan.parse s mode = .ok plan) ∧
      (∀ e, checkSelector s = .error e ↔ Plan.parse s mode = .error e) ∧
      ∀ e, checkSelector s = .error e →
        ∀ (m : Type → Type) [Monad m] (load : String → m (Except RetrievalError Document.Tree))
          (catalog : Catalog) (name : String) (book : Book),
        catalog.lookup? name = some book →
        ∃ failure : RequestError,
          (Query.mk name s).answer catalog mode load = pure (.error failure) ∧
          validateSelector s = ⟨false, failure.message⟩) ∧
    (":hasText".toList <:+: s.toList → checkSelector s = .ok ()) ∧
    (do checkSelector s; Plan.parse s mode) = Plan.parse s mode := by
  refine ⟨?_, checkSelector_of_hasText, checkSelector_bind_parse s mode⟩
  intro h
  have herror : ∀ e, checkSelector s = .error e ↔ Plan.parse s mode = .error e := by
    intro e
    rw [checkSelector_eq_map_parse h mode]
    cases Plan.parse s mode with
    | error cause => simp [Except.map]
    | ok plan => simp [Except.map]
  refine ⟨?_, herror, ?_⟩
  · rw [checkSelector_eq_map_parse h mode]
    cases Plan.parse s mode with
    | error e => simp [Except.map]
    | ok plan => simp [Except.map]
  · intro e hcheck m _ load catalog name book hbook
    have hplan := (herror e).mp hcheck
    exact ⟨.selector e, Query.answer_of_refused load hbook hplan,
      validateSelector_of_refused h hplan⟩

end BookCensus
