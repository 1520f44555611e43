import BookCensus.Catalog.Validation
import BookCensus.Proofs.MemberNames
import Mathlib.Data.List.Nodup

/-!
# Requests by the name of a book

Three readings of a name meet in a request.  A catalog is checked with blanks around
names left out, a book is looked up by its exact name, and a request as it is sent
has underscores where it means spaces.

A checked catalog has no two books of one name, whichever of the first two readings
is taken, so looking up the exact name of a book finds that book.  The third reading
changes a name exactly when there is an underscore in it.

* `catalogIssues_eq_nil_iff` — when nothing is wrong with a list of books;
* `lookup?_eq_some_iff_of_valid` — in such a list a book is found by exactly its name;
* `lookup?_ofRequest_name` — sent as a request, the name of a book finds that book
  exactly when it has no underscore; with one, the request means the book that has
  spaces there, if any.
-/

namespace BookCensus

open Text

/-! ## Catalogs with nothing wrong -/

namespace Book

/-- There is nothing wrong with a name that is not blank and was not seen before. -/
theorem nameIssues_eq_nil_iff {seen : List String} {b : Book} :
    b.nameIssues seen = [] ↔ trim b.name ≠ "" ∧ trim b.name ∉ seen := by
  rw [nameIssues]
  by_cases hblank : trim b.name = ""
  · simp [hblank]
  · by_cases hseen : trim b.name ∈ seen
    · simp [hblank, hseen]
    · simp [hblank, hseen]

/-- There is nothing wrong with the name of a file that is not blank. -/
theorem fileIssues_eq_nil_iff {b : Book} : b.fileIssues = [] ↔ trim b.file ≠ "" := by
  rw [fileIssues]
  by_cases hblank : trim b.file = "" <;> simp [hblank]

end Book

/-- Nothing is wrong with books after others when each has a name and a file and no
name, blanks around it left out, is one before it. -/
theorem bookIssues_eq_nil_iff {seen : List String} {books : List Book} :
    bookIssues seen books = [] ↔
      (∀ b ∈ books, trim b.name ≠ "" ∧ trim b.file ≠ "" ∧ trim b.name ∉ seen) ∧
        (books.map fun b => trim b.name).Nodup := by
  induction books generalizing seen with
  | nil => simp [bookIssues]
  | cons b rest ih =>
      have hfresh : (∀ other ∈ rest, trim other.name ∉ trim b.name :: seen) ↔
          trim b.name ∉ rest.map (fun b => trim b.name) ∧
            ∀ other ∈ rest, trim other.name ∉ seen := by
        simp only [List.mem_cons, not_or, List.mem_map, not_exists, not_and]
        exact forall₂_and
      rw [bookIssues, List.append_eq_nil_iff, List.append_eq_nil_iff, ih,
        Book.nameIssues_eq_nil_iff, Book.fileIssues_eq_nil_iff, List.forall_mem_cons,
        List.map_cons, List.nodup_cons]
      simp only [forall₂_and, hfresh]
      constructor
      · rintro ⟨⟨⟨hname, hseen⟩, hfile⟩, ⟨hnames, hfiles, hnew, hseens⟩, hnodup⟩
        exact ⟨⟨⟨hname, hfile, hseen⟩, hnames, hfiles, hseens⟩, hnew, hnodup⟩
      · rintro ⟨⟨⟨hname, hfile, hseen⟩, hnames, hfiles, hseens⟩, hnew, hnodup⟩
        exact ⟨⟨⟨hname, hseen⟩, hfile⟩, ⟨hnames, hfiles, hnew, hseens⟩, hnodup⟩

/-- **Checked catalogs.**  Nothing is wrong with a list of books when it has one, each
has a name and a file that are not blank, and no two names are the same but for
blanks around them. -/
theorem catalogIssues_eq_nil_iff {books : List Book} :
    catalogIssues books = [] ↔
      books ≠ [] ∧ (∀ b ∈ books, trim b.name ≠ "" ∧ trim b.file ≠ "") ∧
        (books.map fun b => trim b.name).Nodup := by
  rw [catalogIssues, List.append_eq_nil_iff, bookIssues_eq_nil_iff]
  simp

/-- No two books of a checked catalog have the same name. -/
theorem nodup_names_of_valid {books : List Book} (hvalid : catalogIssues books = []) :
    (books.map Book.name).Nodup := by
  obtain ⟨-, -, htrimmed⟩ := catalogIssues_eq_nil_iff.mp hvalid
  have hcompose : (books.map fun b => trim b.name) = (books.map Book.name).map trim := by
    rw [List.map_map]
    rfl
  rw [hcompose] at htrimmed
  exact htrimmed.of_map trim

/-- **Exact names.**  In a checked catalog, what is found by a name is the one book
of exactly that name, blanks included. -/
theorem lookup?_eq_some_iff_of_valid {c : Catalog} (hvalid : catalogIssues c.books = [])
    {name : String} {b : Book} :
    c.lookup? name = some b ↔ b ∈ c.books ∧ b.name = name := by
  constructor
  · intro h
    exact ⟨List.mem_of_find?_eq_some h, by simpa using List.find?_some h⟩
  · rintro ⟨hb, rfl⟩
    cases hfound : c.lookup? b.name with
    | none => exact absurd rfl (Catalog.lookup?_eq_none_iff.mp hfound b hb)
    | some other =>
        have hname : other.name = b.name := by simpa using List.find?_some hfound
        have hmem : other ∈ c.books := List.mem_of_find?_eq_some hfound
        rw [List.inj_on_of_nodup_map (nodup_names_of_valid hvalid) hmem hb hname]

/-! ## Names as they are sent -/

/-- One character is written for another all over the text. -/
theorem toList_substitute (old new : Char) (text : String) :
    (substitute old new text).toList = text.toList.map fun c => if c = old then new else c := by
  rw [substitute, String.toList_ofList]

/-- What is written for another character is gone. -/
theorem notMem_substitute {old new : Char} (hne : old ≠ new) (text : String) :
    old ∉ (substitute old new text).toList := by
  rw [toList_substitute, List.mem_map]
  rintro ⟨c, -, hc⟩
  split at hc
  · exact hne hc.symm
  · contradiction

/-- A text without a character stays as it is when another is written for it. -/
theorem substitute_of_notMem {old new : Char} {text : String} (h : old ∉ text.toList) :
    substitute old new text = text := by
  have hsame : text.toList.map (fun c => if c = old then new else c) = text.toList := by
    refine (List.map_congr_left ?_).trans (List.map_id _)
    intro c hc
    refine if_neg ?_
    rintro rfl
    exact h hc
  rw [substitute, hsame, String.ofList_toList]

/-- A text without the character stays as it is, and no other one does. -/
theorem substitute_eq_self_iff {old new : Char} (hne : old ≠ new) {text : String} :
    substitute old new text = text ↔ old ∉ text.toList := by
  refine ⟨?_, substitute_of_notMem⟩
  intro h
  rw [← h]
  exact notMem_substitute hne text

/-! ## Requests -/

/-- A request fails as one for an unknown source when its book is not found, and
never otherwise. -/
theorem Query.answer_eq_unknownSource_iff [Css.Wording] {q : Query} {c : Catalog} {mode : TextMatch}
    {load : String → Except RetrievalError Document.Tree} {name : String} :
    Id.run (q.answer c mode load) = .error (.unknownSource name) ↔
      c.lookup? q.book = none ∧ q.book = name := by
  have hprepare := q.prepare_eq c mode
  cases hbook : c.lookup? q.book with
  | none =>
      simp only [hbook] at hprepare
      simp [Query.answer, hprepare]
  | some book =>
      cases hplan : Plan.parse q.selector mode with
      | error e =>
          simp only [hbook, hplan] at hprepare
          simp [Query.answer, hprepare]
      | ok plan =>
          simp only [hbook, hplan] at hprepare
          cases hload : load book.file <;>
            simp [Query.answer, hprepare, Id.run, bind, hload, pure]

/-- **Requests by name.**  In a checked catalog, and whatever selector is sent with it,
the name of a book finds that very book exactly when there is no underscore in it;
then no report is on another book and the source is never unknown.  A name with
underscores is taken for the one that has spaces there: the request finds the book
of that name, if there is one, and otherwise fails for want of it. -/
theorem lookup?_ofRequest_name [Css.Wording] {c : Catalog} (hvalid : catalogIssues c.books = [])
    {b : Book} (hb : b ∈ c.books) (element : String) :
    (c.lookup? (Query.ofRequest b.name element).book = some b ↔ '_' ∉ b.name.toList) ∧
    ('_' ∉ b.name.toList →
      ∀ (mode : TextMatch) (load : String → Except RetrievalError Document.Tree),
        (∀ r, Id.run ((Query.ofRequest b.name element).answer c mode load) = .ok r →
          r.book = b) ∧
        ∀ name, Id.run ((Query.ofRequest b.name element).answer c mode load)
          ≠ .error (.unknownSource name)) ∧
    ('_' ∈ b.name.toList →
      ∀ (mode : TextMatch) (load : String → Except RetrievalError Document.Tree),
        (∀ r, Id.run ((Query.ofRequest b.name element).answer c mode load) = .ok r →
          r.book ∈ c.books ∧ r.book ≠ b ∧ r.book.name = substitute '_' ' ' b.name) ∧
        (Id.run ((Query.ofRequest b.name element).answer c mode load)
            = .error (.unknownSource (substitute '_' ' ' b.name)) ↔
          ∀ other ∈ c.books, other.name ≠ substitute '_' ' ' b.name)) := by
  -- what is asked for is the name itself just when nothing in it is replaced
  have hsent : (Query.ofRequest b.name element).book = b.name ↔ '_' ∉ b.name.toList :=
    substitute_eq_self_iff (by decide)
  have hfound : c.lookup? (Query.ofRequest b.name element).book = some b ↔
      '_' ∉ b.name.toList := by
    rw [lookup?_eq_some_iff_of_valid hvalid, ← hsent]
    exact ⟨fun h => h.2.symm, fun h => ⟨hb, h.symm⟩⟩
  refine ⟨hfound, ?_, ?_⟩
  · intro hplain mode load
    have hbook := hfound.mpr hplain
    constructor
    · intro r hr
      have hreport := Query.lookup?_of_answer hr
      rw [hbook] at hreport
      exact (Option.some.inj hreport).symm
    · intro name hfailed
      have hnone := (Query.answer_eq_unknownSource_iff.mp hfailed).1
      rw [hbook] at hnone
      cases hnone
  · intro hunderscore mode load
    constructor
    · intro r hr
      have hreport := Query.lookup?_of_answer hr
      obtain ⟨hmem, hname⟩ := (lookup?_eq_some_iff_of_valid hvalid).mp hreport
      refine ⟨hmem, ?_, hname⟩
      intro hsame
      exact hfound.mp (hsame ▸ hreport) hunderscore
    · rw [Query.answer_eq_unknownSource_iff, Catalog.lookup?_eq_none_iff]
      exact and_iff_left rfl

/-- Two books whose names differ in an underscore. -/
def twinCatalog : Catalog :=
  ⟨.initial, [⟨"Algebra_1", "drafts.html", []⟩, ⟨"Algebra 1", "algebra.html", []⟩]⟩

/-- The second of them is found by its name. -/
theorem lookup?_ofRequest_name_twin :
    catalogIssues twinCatalog.books = [] ∧
      twinCatalog.lookup? (Query.ofRequest "Algebra 1" "p").book
        = some ⟨"Algebra 1", "algebra.html", []⟩ := by
  have hvalid : catalogIssues twinCatalog.books = [] := by decide +kernel
  have hmem : (⟨"Algebra 1", "algebra.html", []⟩ : Book) ∈ twinCatalog.books := by
    simp [twinCatalog]
  exact ⟨hvalid, (lookup?_ofRequest_name hvalid hmem "p").1.mpr (by decide)⟩

/-- Whatever the selector, a request for the first of them finds the second, and finds
nothing when the first is the only book. -/
theorem exists_lookup?_ofRequest_ne :
    (∃ (c : Catalog) (a b : Book), catalogIssues c.books = [] ∧ a ∈ c.books ∧ b ≠ a ∧
      ∀ element, c.lookup? (Query.ofRequest a.name element).book = some b) ∧
    ∃ (c : Catalog) (a : Book), catalogIssues c.books = [] ∧ a ∈ c.books ∧
      ∀ element, c.lookup? (Query.ofRequest a.name element).book = none := by
  have hsent : substitute '_' ' ' "Algebra_1" = "Algebra 1" := by decide
  constructor
  · have hvalid : catalogIssues twinCatalog.books = [] := by decide +kernel
    refine ⟨twinCatalog, ⟨"Algebra_1", "drafts.html", []⟩, ⟨"Algebra 1", "algebra.html", []⟩,
      hvalid, List.mem_cons_self, by simp, ?_⟩
    intro element
    exact (lookup?_eq_some_iff_of_valid hvalid).mpr ⟨by simp [twinCatalog], hsent.symm⟩
  · refine ⟨⟨.initial, [⟨"Algebra_1", "drafts.html", []⟩]⟩, ⟨"Algebra_1", "drafts.html", []⟩,
      by decide +kernel, List.mem_cons_self, ?_⟩
    intro element
    refine Catalog.lookup?_eq_none_iff.mpr ?_
    intro book hbook
    obtain rfl := List.mem_singleton.mp hbook
    change "Algebra_1" ≠ substitute '_' ' ' "Algebra_1"
    rw [hsent]
    decide

end BookCensus
