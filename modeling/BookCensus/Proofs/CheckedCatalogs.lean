import BookCensus.Catalog.Load
import BookCensus.Proofs.BookRequests

/-!
# Checked catalogs are unambiguous

A catalog that is read from a text or from a file has passed its check.  The check
goes through the books once with the names seen so far and leaves out blanks around
names; a look-up takes the first book whose name is the one asked for, blanks
included.

Books that differ after blanks are left out differ all the more as they stand.  So in
a checked catalog the first book of a name is the only one, and where a book stands
among the others has no influence on whether it is found.

* `Catalog.valid_of_ofText`, `Catalog.valid_of_load` — catalogs that were read have
  passed the check;
* `Catalog.unambiguous_of_valid` — what the check says of look-ups, for catalogs of
  any length, and in other catalogs with the same book.
-/

namespace BookCensus

open Text

namespace Catalog

/-! ## Catalogs that were read -/

/-- Reading a text ends well exactly when it is a catalog in TOML with nothing wrong. -/
theorem ofText_eq_ok_iff {origin text : String} {c : Catalog} :
    ofText origin text = .ok c ↔ ofToml text = .ok c ∧ catalogIssues c.books = [] := by
  rw [ofText]
  cases hread : ofToml text with
  | error report =>
      constructor
      · intro h
        cases h
      · rintro ⟨h, -⟩
        cases h
  | ok found =>
      constructor
      · intro h
        simp only at h
        split at h
        · next hissues =>
            obtain rfl := Except.ok.inj h
            exact ⟨rfl, hissues⟩
        · cases h
      · rintro ⟨h, hvalid⟩
        obtain rfl := Except.ok.inj h
        simp only [hvalid]

/-- A catalog that was read from a text has been checked. -/
theorem valid_of_ofText {origin text : String} {c : Catalog} (h : ofText origin text = .ok c) :
    catalogIssues c.books = [] :=
  (ofText_eq_ok_iff.mp h).2

/-- Loading a catalog, when files are a value. -/
theorem load_eq (files : FileAccess Id) (path : String) :
    Id.run (load files path) =
      match Id.run (files.readText path) with
      | .error fault => .error (.unreadable path fault)
      | .ok text => (ofText path text).map (·.anchored path) := by
  simp only [load, Id.run, bind, pure]
  cases files.readText path with
  | error fault => rfl
  | ok text => rfl

/-- What is loaded was read from the text of the file, and differs from that only in
the directory with the books. -/
theorem exists_ofText_of_load {files : FileAccess Id} {path : String} {c : Catalog}
    (h : Id.run (load files path) = .ok c) :
    ∃ text found, Id.run (files.readText path) = .ok text ∧ ofText path text = .ok found ∧
      c = found.anchored path := by
  rw [load_eq] at h
  cases htext : Id.run (files.readText path) with
  | error fault =>
      rw [htext] at h
      cases h
  | ok text =>
      simp only [htext] at h
      cases hfound : ofText path text with
      | error e =>
          rw [hfound] at h
          cases h
      | ok found =>
          rw [hfound] at h
          exact ⟨text, found, rfl, hfound, (Except.ok.inj h).symm⟩

/-- A catalog that was loaded has been checked. -/
theorem valid_of_load {files : FileAccess Id} {path : String} {c : Catalog}
    (h : Id.run (load files path) = .ok c) : catalogIssues c.books = [] := by
  obtain ⟨text, found, -, hfound, rfl⟩ := exists_ofText_of_load h
  have hvalid : catalogIssues found.books = [] := valid_of_ofText hfound
  exact hvalid

/-! ## Looking up books -/

/-- What makes the names of a catalog unambiguous. -/
structure Unambiguous (c : Catalog) : Prop where
  /-- There are books. -/
  books_ne_nil : c.books ≠ []
  /-- What is found by a name are the books of exactly that name. -/
  lookup?_eq_some_iff : ∀ name b, c.lookup? name = some b ↔ b ∈ c.books ∧ b.name = name
  /-- Every book is found by its name. -/
  lookup?_name : ∀ b ∈ c.books, c.lookup? b.name = some b
  /-- No two entries have one name, blanks around names left out. -/
  pairwise_trim_ne : c.books.Pairwise fun b other => trim b.name ≠ trim other.name
  /-- In a checked catalog with other books before, between and after it, or without
  some of them, a book is found just the same. -/
  lookup?_eq_of_mem : ∀ other : Catalog, catalogIssues other.books = [] →
    ∀ b ∈ c.books, b ∈ other.books → other.lookup? b.name = c.lookup? b.name

/-- Every book of a checked catalog is found by its name, wherever it stands. -/
theorem lookup?_name_of_valid {c : Catalog} (hvalid : catalogIssues c.books = []) {b : Book}
    (hb : b ∈ c.books) : c.lookup? b.name = some b :=
  (lookup?_eq_some_iff_of_valid hvalid).mpr ⟨hb, rfl⟩

/-- Checking leaves no doubt about books. -/
theorem unambiguous_of_valid {c : Catalog} (hvalid : catalogIssues c.books = []) :
    c.Unambiguous := by
  obtain ⟨hnonempty, -, htrimmed⟩ := catalogIssues_eq_nil_iff.mp hvalid
  refine ⟨hnonempty, ?_, ?_, List.pairwise_map.mp htrimmed, ?_⟩
  · intro name b
    exact lookup?_eq_some_iff_of_valid hvalid
  · intro b hb
    exact lookup?_name_of_valid hvalid hb
  · intro other hother b hb hmem
    have hthere : other.lookup? b.name = some b := lookup?_name_of_valid hother hmem
    have hhere : c.lookup? b.name = some b := lookup?_name_of_valid hvalid hb
    rw [hthere, hhere]

/-- **Unambiguous catalogs.**  A catalog with nothing wrong has books, each found by
exactly its name and no two of one name, and it does not matter for this which other
books there are and in what order they stand.  So it is with every catalog that was
read, from a text or from a file. -/
theorem unambiguous_of_checked :
    (∀ c : Catalog, catalogIssues c.books = [] → c.Unambiguous) ∧
    (∀ (origin text : String) (c : Catalog), ofText origin text = .ok c → c.Unambiguous) ∧
    ∀ (files : FileAccess Id) (path : String) (c : Catalog),
      Id.run (load files path) = .ok c → c.Unambiguous := by
  refine ⟨?_, ?_, ?_⟩
  · intro c hvalid
    exact unambiguous_of_valid hvalid
  · intro origin text c h
    exact unambiguous_of_valid (valid_of_ofText h)
  · intro files path c h
    exact unambiguous_of_valid (valid_of_load h)

/-- Two books, one with blanks around its name. -/
def blankCatalog : Catalog :=
  ⟨.initial, [⟨"Optics", "optics.html", []⟩, ⟨" Waves\t", "waves.html", []⟩]⟩

/-- The name with blanks finds the second of them, also when the first is gone, and the
name without does not. -/
theorem unambiguous_of_checked_blank :
    catalogIssues blankCatalog.books = [] ∧
      blankCatalog.lookup? " Waves\t" = some ⟨" Waves\t", "waves.html", []⟩ ∧
      Catalog.lookup? ⟨.initial, [⟨" Waves\t", "waves.html", []⟩]⟩ " Waves\t"
        = blankCatalog.lookup? " Waves\t" ∧
      blankCatalog.lookup? "Waves" = none := by
  have hvalid : catalogIssues blankCatalog.books = [] := by decide +kernel
  have hclear := unambiguous_of_checked.1 blankCatalog hvalid
  have hmem : (⟨" Waves\t", "waves.html", []⟩ : Book) ∈ blankCatalog.books := by
    simp [blankCatalog]
  refine ⟨hvalid, hclear.lookup?_name _ hmem, ?_, ?_⟩
  · exact hclear.lookup?_eq_of_mem _ (by decide +kernel) _ hmem List.mem_cons_self
  · rw [Option.eq_none_iff_forall_ne_some]
    intro b hfound
    obtain ⟨hb, hname⟩ := (hclear.lookup?_eq_some_iff _ _).mp hfound
    simp only [blankCatalog, List.mem_cons, List.not_mem_nil, or_false] at hb
    rcases hb with rfl | rfl
    · exact absurd hname (by decide)
    · exact absurd hname (by decide)

end Catalog

end BookCensus
