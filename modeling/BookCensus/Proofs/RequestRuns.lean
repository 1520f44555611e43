import BookCensus.Census.Session
import BookCensus.Proofs.SelectorAgreement
import Mathlib.Data.List.Induction

/-!
# Requests in a run

A run mixes steps of three kinds: texts are put on the shelf, loaded, and
searched by requests.  What a request answers depends on the steps before it
only through the text that was put last under the file of its book, and it asks
the shelf for that file at most once.

`LatestInsert` reads that text off the steps themselves.  The invariant that
carries it through a run is `Remembers`: the shelf holds under every name what
was put there last.  It holds at the start, every step keeps it
(`Remembers.take`), and so every run does (`remembers_after`).

The main statement, `run_answers`, says for every request in every run which of
its four answers it gives, what it asks the shelf for, and that earlier requests
and loads do not matter.
-/

namespace BookCensus

/-- Whether a step puts a text on the shelf. -/
def Step.isInsert : Step → Bool
  | .insert _ _ => true
  | _ => false

/-- `html` is the text that was put last under a name. -/
def LatestInsert (history : List Step) (id html : String) : Prop :=
  ∃ earlier later, history = earlier ++ .insert id html :: later ∧
    ∀ other, Step.insert id other ∉ later

/-- The first book of a catalog with a name. -/
def Catalog.FirstNamed (catalog : Catalog) (name : String) (book : Book) : Prop :=
  ∃ earlier later, catalog.books = earlier ++ book :: later ∧ book.name = name ∧
    ∀ other ∈ earlier, other.name ≠ name

/-- A book is found when it is the first of its name. -/
theorem Catalog.lookup?_eq_some_iff {catalog : Catalog} {name : String} {book : Book} :
    catalog.lookup? name = some book ↔ catalog.FirstNamed name book := by
  rw [Catalog.lookup?, List.find?_eq_some_iff_append]
  constructor
  · rintro ⟨hname, earlier, later, hbooks, hearlier⟩
    exact ⟨earlier, later, hbooks, by simpa using hname, by simpa using hearlier⟩
  · rintro ⟨earlier, later, hbooks, hname, hearlier⟩
    exact ⟨by simpa using hname, earlier, later, hbooks, by simpa using hearlier⟩

/-- No book is found when none has the name. -/
theorem Catalog.lookup?_eq_none_iff {catalog : Catalog} {name : String} :
    catalog.lookup? name = none ↔ ∀ book ∈ catalog.books, book.name ≠ name := by
  rw [Catalog.lookup?, List.find?_eq_none]
  simp

/-! ## The latest text under a name -/

/-- One more step puts a new latest text under a name, or leaves the one there
was. -/
theorem latestInsert_concat_iff {history : List Step} {step : Step} {id html : String} :
    LatestInsert (history ++ [step]) id html ↔
      step = .insert id html ∨
        (∀ other, step ≠ .insert id other) ∧ LatestInsert history id html := by
  constructor
  · rintro ⟨earlier, later, hsteps, hlater⟩
    rcases List.eq_nil_or_concat later with rfl | ⟨front, last, rfl⟩
    · have hlast := (List.append_inj' hsteps rfl).2
      exact Or.inl (List.singleton_inj.mp hlast)
    · rw [List.concat_eq_append] at hsteps hlater
      rw [← List.cons_append, ← List.append_assoc] at hsteps
      obtain ⟨hhistory, hlast⟩ := List.append_inj' hsteps rfl
      obtain rfl := List.singleton_inj.mp hlast
      refine Or.inr ⟨?_, earlier, front, hhistory, ?_⟩
      · rintro other rfl
        exact hlater other (by simp)
      · intro other hmem
        exact hlater other (List.mem_append_left _ hmem)
  · rintro (rfl | ⟨hstep, earlier, later, rfl, hlater⟩)
    · exact ⟨history, [], rfl, fun _ => List.not_mem_nil⟩
    · refine ⟨earlier, later ++ [step], by simp, ?_⟩
      intro other hmem
      rcases List.mem_append.mp hmem with h | h
      · exact hlater other h
      · exact hstep other (List.mem_singleton.mp h).symm

/-- Some text is the latest under a name when any was put there. -/
theorem exists_latestInsert_iff {history : List Step} {id : String} :
    (∃ html, LatestInsert history id html) ↔ ∃ html, Step.insert id html ∈ history := by
  constructor
  · rintro ⟨html, earlier, later, rfl, -⟩
    exact ⟨html, by simp⟩
  · rintro ⟨html, hmem⟩
    induction history using List.reverseRecOn with
    | nil => cases hmem
    | append_singleton history step ih =>
        by_cases hstep : ∃ other, step = .insert id other
        · obtain ⟨other, rfl⟩ := hstep
          exact ⟨other, latestInsert_concat_iff.mpr (Or.inl rfl)⟩
        · have hold : Step.insert id html ∈ history := by
            rcases List.mem_append.mp hmem with h | h
            · exact h
            · exact absurd ⟨html, (List.mem_singleton.mp h).symm⟩ hstep
          obtain ⟨latest, hlatest⟩ := ih hold
          exact ⟨latest, latestInsert_concat_iff.mpr
            (Or.inr ⟨fun other h => hstep ⟨other, h⟩, hlatest⟩)⟩

/-- Only steps that put texts on the shelf count. -/
theorem latestInsert_filter_iff {history : List Step} {id html : String} :
    LatestInsert (history.filter Step.isInsert) id html ↔ LatestInsert history id html := by
  induction history using List.reverseRecOn with
  | nil => rfl
  | append_singleton history step ih =>
      rw [List.filter_append, latestInsert_concat_iff, ← ih]
      cases step with
      | insert other text => exact latestInsert_concat_iff
      | load other =>
          rw [List.filter_cons_of_neg (by simp [Step.isInsert]), List.filter_nil,
            List.append_nil]
          simp
      | request query mode =>
          rw [List.filter_cons_of_neg (by simp [Step.isInsert]), List.filter_nil,
            List.append_nil]
          simp

namespace Session

/-! ## Single steps -/

/-- What a request answers from a shelf: the book is looked up, the selector is
compiled, and the text is taken from the shelf, in this order. -/
def answerFrom [Css.Wording] (catalog : Catalog) (query : Query) (mode : TextMatch)
    (shelf : Shelf) :
    Except RequestError Report :=
  match catalog.lookup? query.book with
  | none => .error (.unknownSource query.book)
  | some book =>
      match Plan.parse query.selector mode with
      | .error e => .error (.selector e)
      | .ok plan =>
          match shelf.sources.lookup book.file with
          | none => .error (.retrieval (.notFound book.file))
          | some html => .ok ⟨plan.scan (Html.parse html), book⟩

/-- The names a request asks the shelf for: that of the file of its book, when the
book is known and the selector compiles. -/
def requested [Css.Wording] (catalog : Catalog) (query : Query) (mode : TextMatch) : List String :=
  match catalog.lookup? query.book with
  | none => []
  | some book =>
      match Plan.parse query.selector mode with
      | .error _ => []
      | .ok _ => [book.file]

/-- A request answers from the shelf, leaves it alone, and keeps what it asked
for. -/
theorem take_request [Css.Wording] (catalog : Catalog) (query : Query) (mode : TextMatch)
    (s : Session) :
    take catalog (.request query mode) s
      = (.answered (answerFrom catalog query mode s.shelf),
          { s with asked := requested catalog query mode ++ s.asked }) := by
  have hprepare := Query.prepare_eq query catalog mode
  rw [answerFrom, requested]
  cases hbook : catalog.lookup? query.book with
  | none =>
      simp only [hbook] at hprepare
      simp only [take, Query.answer, hprepare]
      rfl
  | some book =>
      cases hplan : Plan.parse query.selector mode with
      | error e =>
          simp only [take, Query.answer_of_refused load hbook hplan]
          rfl
      | ok plan =>
          simp only [hbook, hplan] at hprepare
          cases hhtml : s.shelf.sources.lookup book.file with
          | none =>
              have hload : s.shelf.load book.file = .error (.notFound book.file) := by
                rw [Shelf.load, hhtml]
              simp only [take, Query.answer, hprepare, bind, StateT.bind, load, hload, hhtml]
              rfl
          | some html =>
              have hload : s.shelf.load book.file = .ok (Html.parse html) := by
                rw [Shelf.load, hhtml]
              simp only [take, Query.answer, hprepare, bind, StateT.bind, load, hload, hhtml]
              rfl

section Answers

variable {catalog : Catalog} {query : Query} {mode : TextMatch}

/-- A request with a book and a plan asks for the file of the book. -/
theorem requested_of_ok [Css.Wording] {book : Book} {plan : Plan}
    (hbook : catalog.lookup? query.book = some book)
    (hplan : Plan.parse query.selector mode = .ok plan) :
    requested catalog query mode = [book.file] := by
  simp only [requested, hbook, hplan]

/-- A request that fails before asks for nothing. -/
theorem requested_of_refused [Css.Wording]
    (h : catalog.lookup? query.book = none ∨ ∃ e, Plan.parse query.selector mode = .error e) :
    requested catalog query mode = [] := by
  rw [requested]
  rcases h with hbook | ⟨e, hplan⟩
  · rw [hbook]
  · cases catalog.lookup? query.book with
    | none => rfl
    | some book => rw [hplan]

end Answers

/-! ## Runs -/

/-- The state after some steps. -/
def after [Css.Wording] (catalog : Catalog) : List Step → Session → Session
  | [], s => s
  | step :: rest, s => after catalog rest (take catalog step s).2

/-- The last step comes after the others. -/
theorem after_concat [Css.Wording] (catalog : Catalog) (before : List Step) (step : Step)
    (s : Session) :
    after catalog (before ++ [step]) s = (take catalog step (after catalog before s)).2 := by
  induction before generalizing s with
  | nil => rfl
  | cons first rest ih => exact ih _

/-- The reply to a step is what the step gives in the state that the steps before
it lead to. -/
theorem getElem?_run [Css.Wording] (catalog : Catalog) (before later : List Step) (step : Step)
    (s : Session) :
    (run catalog (before ++ step :: later) s)[before.length]?
      = some ((take catalog step (after catalog before s)).1,
          (take catalog step (after catalog before s)).2.asked.length) := by
  induction before generalizing s with
  | nil => rfl
  | cons first rest ih =>
      rw [List.cons_append, run, List.length_cons]
      exact ih _

/-- The shelf holds under every name the text that was put there last. -/
def Remembers (history : List Step) (s : Session) : Prop :=
  ∀ id html, s.shelf.sources.lookup id = some html ↔ LatestInsert history id html

/-- At the beginning nothing was put on the shelf, and nothing is there. -/
theorem remembers_start : Remembers [] start := by
  intro id html
  constructor
  · intro h
    cases h
  · rintro ⟨earlier, later, hsteps, -⟩
    cases earlier with
    | nil => cases hsteps
    | cons first rest => cases hsteps

/-- A step that leaves the shelf alone does not count. -/
theorem Remembers.keep {history : List Step} {step : Step} {s t : Session}
    (h : Remembers history s) (hshelf : t.shelf = s.shelf) (hstep : step.isInsert = false) :
    Remembers (history ++ [step]) t := by
  intro id html
  have hother : ∀ other, step ≠ .insert id other := by
    rintro other rfl
    cases hstep
  rw [hshelf, h id html, latestInsert_concat_iff]
  constructor
  · intro hold
    exact Or.inr ⟨hother, hold⟩
  · rintro (hnew | ⟨-, hold⟩)
    · exact absurd hnew (hother html)
    · exact hold

/-- A text put on the shelf is the latest one under its name, and under no
other. -/
theorem Remembers.insert {history : List Step} {s : Session} (h : Remembers history s)
    (id html : String) :
    Remembers (history ++ [.insert id html]) { s with shelf := s.shelf.insert id html } := by
  intro name text
  rw [latestInsert_concat_iff, ← h name text, Shelf.insert, List.lookup_cons]
  by_cases hname : name = id
  · subst hname
    simp
  · have hne : (name == id) = false := by simpa using hname
    have hid : id ≠ name := fun heq => hname heq.symm
    simp [hne, hid]

/-- **Step lemma.**  Every step keeps the shelf in line with the steps taken. -/
theorem Remembers.take [Css.Wording] {history : List Step} {s : Session} (h : Remembers history s)
    (catalog : Catalog) (step : Step) :
    Remembers (history ++ [step]) (Session.take catalog step s).2 := by
  cases step with
  | insert id html => exact h.insert id html
  | load id => exact h.keep rfl rfl
  | request query mode =>
      rw [take_request]
      exact h.keep rfl rfl

/-- **Run lemma.**  After any steps from the start the shelf holds what they put
there last. -/
theorem remembers_after [Css.Wording] (catalog : Catalog) (history : List Step) :
    Remembers history (after catalog history start) := by
  induction history using List.reverseRecOn with
  | nil => exact remembers_start
  | append_singleton history step ih =>
      rw [after_concat]
      exact ih.take catalog step

/-- Nothing is on the shelf under a name exactly when nothing was put there. -/
theorem Remembers.lookup_eq_none_iff {history : List Step} {s : Session}
    (h : Remembers history s) {id : String} :
    s.shelf.sources.lookup id = none ↔ ∀ html, Step.insert id html ∉ history := by
  rw [Option.eq_none_iff_forall_ne_some]
  constructor
  · intro hnone html hmem
    obtain ⟨latest, hlatest⟩ := exists_latestInsert_iff.mpr ⟨html, hmem⟩
    exact hnone latest ((h id latest).mpr hlatest)
  · intro hnone html hsome
    obtain ⟨text, hmem⟩ := exists_latestInsert_iff.mp ⟨html, (h id html).mp hsome⟩
    exact hnone text hmem

/-! ## Answers -/

/-- The answers to a request, read off the catalog, the selector and the steps
before it. -/
inductive Answers [Css.Wording] (catalog : Catalog) (before : List Step) (query : Query)
    (mode : TextMatch) :
    Except RequestError Report → Prop where
  | unknownSource (h : ∀ book ∈ catalog.books, book.name ≠ query.book) :
      Answers catalog before query mode (.error (.unknownSource query.book))
  | selector {book : Book} {e : SelectorError} (hbook : catalog.FirstNamed query.book book)
      (hplan : Plan.parse query.selector mode = .error e) :
      Answers catalog before query mode (.error (.selector e))
  | retrieval {book : Book} {plan : Plan} (hbook : catalog.FirstNamed query.book book)
      (hplan : Plan.parse query.selector mode = .ok plan)
      (hnone : ∀ html, Step.insert book.file html ∉ before) :
      Answers catalog before query mode (.error (.retrieval (.notFound book.file)))
  | report {book : Book} {plan : Plan} {html : String}
      (hbook : catalog.FirstNamed query.book book)
      (hplan : Plan.parse query.selector mode = .ok plan)
      (hhtml : LatestInsert before book.file html) :
      Answers catalog before query mode (.ok ⟨plan.scan (Html.parse html), book⟩)

/-- A request gives an answer that the steps before it allow. -/
theorem Remembers.answers [Css.Wording] {before : List Step} {s : Session} (h : Remembers before s)
    (catalog : Catalog) (query : Query) (mode : TextMatch) :
    Answers catalog before query mode (answerFrom catalog query mode s.shelf) := by
  rw [answerFrom]
  cases hbook : catalog.lookup? query.book with
  | none => exact .unknownSource (Catalog.lookup?_eq_none_iff.mp hbook)
  | some book =>
      have hfirst := Catalog.lookup?_eq_some_iff.mp hbook
      cases hplan : Plan.parse query.selector mode with
      | error e => exact .selector hfirst hplan
      | ok plan =>
          simp only
          cases hhtml : s.shelf.sources.lookup book.file with
          | none => exact .retrieval hfirst hplan (h.lookup_eq_none_iff.mp hhtml)
          | some html => exact .report hfirst hplan ((h book.file html).mp hhtml)

/-- It is the only one they allow. -/
theorem Remembers.answerFrom_eq [Css.Wording] {before : List Step} {s : Session}
    (h : Remembers before s) {catalog : Catalog} {query : Query} {mode : TextMatch}
    {answer : Except RequestError Report} (hanswer : Answers catalog before query mode answer) :
    answerFrom catalog query mode s.shelf = answer := by
  rw [answerFrom]
  cases hanswer with
  | unknownSource hnone => rw [Catalog.lookup?_eq_none_iff.mpr hnone]
  | selector hbook hplan =>
      rw [Catalog.lookup?_eq_some_iff.mpr hbook]
      simp only [hplan]
  | retrieval hbook hplan hnone =>
      rw [Catalog.lookup?_eq_some_iff.mpr hbook]
      simp only [hplan, h.lookup_eq_none_iff.mpr hnone]
  | report hbook hplan hhtml =>
      rw [Catalog.lookup?_eq_some_iff.mpr hbook]
      simp only [hplan, (h _ _).mpr hhtml]

/-- A shelf that remembers the history gives the answer that the history settles, and no other
one. -/
theorem Remembers.answerFrom_eq_iff [Css.Wording] {before : List Step} {s : Session}
    (h : Remembers before s) {catalog : Catalog} {query : Query} {mode : TextMatch}
    {answer : Except RequestError Report} :
    answerFrom catalog query mode s.shelf = answer ↔ Answers catalog before query mode answer := by
  constructor
  · rintro rfl
    exact h.answers catalog query mode
  · exact h.answerFrom_eq

/-! ### The four kinds -/

section Kinds

variable {catalog : Catalog} {before : List Step} {query : Query} {mode : TextMatch}

/-- When a request fails for the name of the book. -/
theorem answers_unknownSource_iff [Css.Wording] {name : String} :
    Answers catalog before query mode (.error (.unknownSource name)) ↔
      name = query.book ∧ ∀ book ∈ catalog.books, book.name ≠ query.book := by
  constructor
  · intro h
    cases h with
    | unknownSource hnone => exact ⟨rfl, hnone⟩
  · rintro ⟨rfl, hnone⟩
    exact .unknownSource hnone

/-- When a request fails for its selector, and with which error. -/
theorem answers_selector_iff [Css.Wording] {e : SelectorError} :
    Answers catalog before query mode (.error (.selector e)) ↔
      (∃ book ∈ catalog.books, book.name = query.book) ∧
        Plan.parse query.selector mode = .error e := by
  constructor
  · intro h
    cases h with
    | selector hbook hplan =>
        obtain ⟨earlier, later, hbooks, hname, -⟩ := hbook
        exact ⟨⟨_, by rw [hbooks]; simp, hname⟩, hplan⟩
  · rintro ⟨⟨book, hmem, hname⟩, hplan⟩
    cases hlookup : catalog.lookup? query.book with
    | none => exact absurd hname (Catalog.lookup?_eq_none_iff.mp hlookup book hmem)
    | some first => exact .selector (Catalog.lookup?_eq_some_iff.mp hlookup) hplan

/-- When a request fails for the book that is not there. -/
theorem answers_retrieval_iff [Css.Wording] {e : RetrievalError} :
    Answers catalog before query mode (.error (.retrieval e)) ↔
      ∃ book plan, catalog.FirstNamed query.book book ∧
        Plan.parse query.selector mode = .ok plan ∧
        (∀ html, Step.insert book.file html ∉ before) ∧ e = .notFound book.file := by
  constructor
  · intro h
    cases h with
    | retrieval hbook hplan hnone => exact ⟨_, _, hbook, hplan, hnone, rfl⟩
  · rintro ⟨book, plan, hbook, hplan, hnone, rfl⟩
    exact .retrieval hbook hplan hnone

/-- When a request is answered by a report, and by which. -/
theorem answers_ok_iff [Css.Wording] {report : Report} :
    Answers catalog before query mode (.ok report) ↔
      ∃ book plan html, catalog.FirstNamed query.book book ∧
        Plan.parse query.selector mode = .ok plan ∧ LatestInsert before book.file html ∧
        report = ⟨plan.scan (Html.parse html), book⟩ := by
  constructor
  · intro h
    cases h with
    | report hbook hplan hhtml => exact ⟨_, _, _, hbook, hplan, hhtml, rfl⟩
  · rintro ⟨book, plan, html, hbook, hplan, hhtml, rfl⟩
    exact .report hbook hplan hhtml

end Kinds

/-! ### What came before -/

/-- Shelves with the same texts load alike. -/
theorem take_fst_congr [Css.Wording] (catalog : Catalog) (step : Step) {s t : Session}
    (h : ∀ id, s.shelf.sources.lookup id = t.shelf.sources.lookup id) :
    (take catalog step s).1 = (take catalog step t).1 := by
  cases step with
  | insert id html => rfl
  | load id =>
      have hload : s.shelf.load id = t.shelf.load id := by
        rw [Shelf.load, Shelf.load, h id]
      exact congrArg Reply.loaded hload
  | request query mode =>
      rw [take_request, take_request]
      simp only [answerFrom, h]

/-- Two histories with the same texts put on the shelf in the same order lead to the
same texts on the shelf. -/
theorem lookup_after_congr [Css.Wording] (catalog : Catalog) {history other : List Step}
    (h : other.filter Step.isInsert = history.filter Step.isInsert) (id : String) :
    (after catalog other start).shelf.sources.lookup id
      = (after catalog history start).shelf.sources.lookup id := by
  apply Option.ext
  intro html
  calc (after catalog other start).shelf.sources.lookup id = some html
      ↔ LatestInsert other id html := remembers_after catalog other id html
    _ ↔ LatestInsert (other.filter Step.isInsert) id html := latestInsert_filter_iff.symm
    _ ↔ LatestInsert (history.filter Step.isInsert) id html := by rw [h]
    _ ↔ LatestInsert history id html := latestInsert_filter_iff
    _ ↔ (after catalog history start).shelf.sources.lookup id = some html :=
        (remembers_after catalog history id html).symm

/-- **The answers in a run.**  A request at any place of a run from the start gives
one answer.  It is that the book is unknown exactly when no book of the catalog has
the name; else the error of the selector exactly when the selector does not
compile; else that the file is not there exactly when no step before put it on the
shelf; else the report of the first book of the name on the text that was put under
its file last.  The request asks the shelf for that file once when it comes to the
last stage, and for nothing when it does not.  And what a step replies depends on
the steps before it only through the texts they put on the shelf: requests and
loads change no later reply. -/
theorem run_answers [Css.Wording] (catalog : Catalog) (before later : List Step) :
    (∀ query mode, ∃ answer,
      (run catalog (before ++ .request query mode :: later) start)[before.length]?
        = some (.answered answer,
            (after catalog (before ++ [.request query mode]) start).asked.length) ∧
      (∀ name, answer = .error (.unknownSource name) ↔
        name = query.book ∧ ∀ book ∈ catalog.books, book.name ≠ query.book) ∧
      (∀ e, answer = .error (.selector e) ↔
        (∃ book ∈ catalog.books, book.name = query.book) ∧
          Plan.parse query.selector mode = .error e) ∧
      (∀ e, answer = .error (.retrieval e) ↔
        ∃ book plan, catalog.FirstNamed query.book book ∧
          Plan.parse query.selector mode = .ok plan ∧
          (∀ html, Step.insert book.file html ∉ before) ∧ e = .notFound book.file) ∧
      (∀ report, answer = .ok report ↔
        ∃ book plan html, catalog.FirstNamed query.book book ∧
          Plan.parse query.selector mode = .ok plan ∧ LatestInsert before book.file html ∧
          report = ⟨plan.scan (Html.parse html), book⟩) ∧
      (∀ book plan, catalog.FirstNamed query.book book →
        Plan.parse query.selector mode = .ok plan →
        (after catalog (before ++ [.request query mode]) start).asked
          = book.file :: (after catalog before start).asked) ∧
      ((∀ book ∈ catalog.books, book.name ≠ query.book) ∨
          (∃ e, Plan.parse query.selector mode = .error e) →
        (after catalog (before ++ [.request query mode]) start).asked
          = (after catalog before start).asked)) ∧
    ∀ step, ∃ reply, ∀ other rest,
      other.filter Step.isInsert = before.filter Step.isInsert →
      ((run catalog (other ++ step :: rest) start)[other.length]?).map Prod.fst
        = some reply := by
  have hbefore := remembers_after catalog before
  constructor
  · intro query mode
    -- the log of the shelf grows by what this request asks for, and by nothing else
    have hasked : (after catalog (before ++ [.request query mode]) start).asked
        = requested catalog query mode ++ (after catalog before start).asked := by
      rw [after_concat, take_request]
    refine ⟨answerFrom catalog query mode (after catalog before start).shelf,
      ?_, ?_, ?_, ?_, ?_, ?_, ?_⟩
    · rw [getElem?_run, after_concat, take_request]
    · intro name
      rw [hbefore.answerFrom_eq_iff, answers_unknownSource_iff]
    · intro e
      rw [hbefore.answerFrom_eq_iff, answers_selector_iff]
    · intro e
      rw [hbefore.answerFrom_eq_iff, answers_retrieval_iff]
    · intro report
      rw [hbefore.answerFrom_eq_iff, answers_ok_iff]
    · intro book plan hbook hplan
      rw [hasked, requested_of_ok (Catalog.lookup?_eq_some_iff.mpr hbook) hplan]
      rfl
    · intro hrefused
      rw [← Catalog.lookup?_eq_none_iff] at hrefused
      rw [hasked, requested_of_refused hrefused]
      rfl
  · intro step
    refine ⟨(take catalog step (after catalog before start)).1, ?_⟩
    intro other rest hother
    rw [getElem?_run]
    exact congrArg some (take_fst_congr catalog step (lookup_after_congr catalog hother))

end Session

end BookCensus
