import BookCensus.Proofs.BookRequests

/-!
# What the check of a catalog reports

The check goes through the books of a catalog once.  It holds the names seen so far, and
what it reports of a book depends on them; so on the face of it the report depends on the
order of the books and on what was held when.

What it says is simpler.  Each book is reported for what is wrong with it, in the order of
the books: its name is blank, or is a name of a book before it; its file is blank.  And
the order of the books matters only for the order of what is reported, because of two books
with one name it is always the later one that repeats it, whichever that is.

* `bookIssues_eq` — the report, book by book;
* `count_bookIssues` — a name is reported once for each time it is repeated;
* `bookIssues_perm` — other orders of the books, by exchanging neighbours.
-/

namespace BookCensus

open Text

/-! ## The report, book by book -/

/-- What is wrong with a book that stands behind others: with its name first, then with its
file.  Blanks around names do not count. -/
def Book.defects (earlier : List Book) (b : Book) : List CatalogIssue :=
  let name := trim b.name
  (if name = "" then [.missingField none .name]
    else if ∃ a ∈ earlier, trim a.name = name then [.duplicateBook name]
    else []) ++
  if trim b.file = "" then [.missingField (if name = "" then none else some name) .file]
  else []

variable {seen seen' : List String} {b : Book}

/-- The names held are those of the books before. -/
theorem Book.issues_eq_defects {earlier : List Book}
    (hseen : ∀ name, name ∈ seen ↔ ∃ a ∈ earlier, trim a.name = name) :
    b.nameIssues seen ++ b.fileIssues = b.defects earlier := by
  have hname : seen.contains (trim b.name) = true ↔ ∃ a ∈ earlier, trim a.name = trim b.name := by
    rw [List.contains_iff_mem, hseen]
  simp only [nameIssues, fileIssues, defects, hname]

/-- Every book is reported for what is wrong with it, given the books before it. -/
theorem bookIssues_eq {earlier books : List Book}
    (hseen : ∀ name, name ∈ seen ↔ ∃ a ∈ earlier, trim a.name = name) :
    bookIssues seen books =
      (books.mapIdx fun i b => b.defects (earlier ++ books.take i)).flatten := by
  induction books generalizing seen earlier with
  | nil => rfl
  | cons b rest ih =>
      have hlonger : ∀ name, name ∈ trim b.name :: seen ↔
          ∃ a ∈ earlier ++ [b], trim a.name = name := by
        intro name
        rw [List.mem_cons, hseen]
        simp only [List.mem_append, List.mem_singleton, or_and_right, exists_or, exists_eq_left]
        rw [or_comm, eq_comm]
      rw [bookIssues, ih hlonger, Book.issues_eq_defects hseen, List.mapIdx_cons,
        List.flatten_cons]
      simp

/-! ## Names that are repeated -/

/-- A book is reported for repeating a name when it has that name and the name was seen. -/
theorem Book.count_nameIssues {name : String} (hname : name ≠ "") :
    (b.nameIssues seen).count (.duplicateBook name) =
      if trim b.name = name ∧ name ∈ seen then 1 else 0 := by
  rw [nameIssues]
  by_cases hblank : trim b.name = ""
  · simp [hblank, hname.symm]
  · by_cases hb : trim b.name = name
    · by_cases hseen : name ∈ seen
      · simp [hb, hseen, hname]
      · simp [hb, hseen, hname]
    · by_cases hseen : trim b.name ∈ seen
      · simp [hblank, hseen, hb]
      · simp [hblank, hseen, hb]

/-- What is wrong with a file is never that a name is repeated. -/
theorem Book.duplicateBook_notMem_fileIssues (name : String) :
    .duplicateBook name ∉ b.fileIssues := by
  rw [fileIssues]
  split <;> simp

/-- A name is reported for every book that has it, except the first when it was not seen
before. -/
theorem count_bookIssues {name : String} (hname : name ≠ "") (books : List Book) :
    (bookIssues seen books).count (.duplicateBook name) =
      (books.map fun b => trim b.name).count name - if name ∈ seen then 0 else 1 := by
  induction books generalizing seen with
  | nil => simp [bookIssues]
  | cons b rest ih =>
      have hfile : b.fileIssues.count (.duplicateBook name) = 0 :=
        List.count_eq_zero.mpr (Book.duplicateBook_notMem_fileIssues name)
      rw [bookIssues, List.count_append, List.count_append, hfile, ih,
        Book.count_nameIssues hname, List.map_cons, List.count_cons]
      by_cases hb : trim b.name = name
      · by_cases hseen : name ∈ seen
        · simp [hb, hseen]
          omega
        · simp [hb, hseen]
      · simp [hb, Ne.symm hb]

/-- Blank names are never reported as repeated. -/
theorem duplicateBook_empty_notMem (books : List Book) :
    .duplicateBook "" ∉ bookIssues seen books := by
  induction books generalizing seen with
  | nil => simp [bookIssues]
  | cons b rest ih =>
      have hname : .duplicateBook "" ∉ b.nameIssues seen := by
        rw [Book.nameIssues]
        by_cases hblank : trim b.name = ""
        · simp [hblank]
        · by_cases hseen : trim b.name ∈ seen <;> simp [hblank, hseen, Ne.symm hblank]
      rw [bookIssues]
      simp [hname, ih, Book.duplicateBook_notMem_fileIssues]

/-! ## Other orders -/

/-- It does not matter in what order names were seen, or how often. -/
theorem bookIssues_congr (hseen : ∀ name, name ∈ seen ↔ name ∈ seen') (books : List Book) :
    bookIssues seen books = bookIssues seen' books := by
  induction books generalizing seen seen' with
  | nil => rfl
  | cons b rest ih =>
      have hname : b.nameIssues seen = b.nameIssues seen' := by
        have hcontains : seen.contains (trim b.name) = seen'.contains (trim b.name) := by
          rw [Bool.eq_iff_iff, List.contains_iff_mem, List.contains_iff_mem, hseen]
        simp only [Book.nameIssues, hcontains]
      have hrest : bookIssues (trim b.name :: seen) rest = bookIssues (trim b.name :: seen') rest :=
        ih fun name => by rw [List.mem_cons, List.mem_cons, hseen]
      rw [bookIssues, bookIssues, hname, hrest]

/-- What is reported of a name does not depend on another name seen before. -/
theorem Book.nameIssues_cons_of_ne {name : String} (h : trim b.name ≠ name) :
    b.nameIssues (name :: seen) = b.nameIssues seen := by
  simp [nameIssues, h]

/-- **Exchange.**  Of two books it does not matter which is read first: with different names
neither has a say in what is reported of the other, and with one name the later repeats
it. -/
theorem Book.nameIssues_exchange (seen : List String) (b c : Book) :
    (b.nameIssues seen ++ c.nameIssues (trim b.name :: seen)).Perm
      (c.nameIssues seen ++ b.nameIssues (trim c.name :: seen)) := by
  by_cases hsame : trim b.name = trim c.name
  · have hnames (names : List String) : b.nameIssues names = c.nameIssues names := by
      simp only [nameIssues, hsame]
    rw [hnames, hnames, hsame]
  · rw [nameIssues_cons_of_ne hsame, nameIssues_cons_of_ne (Ne.symm hsame)]
    exact List.perm_append_comm

/-- Books in another order have the same issues, in some order. -/
theorem bookIssues_perm {books other : List Book} (h : books.Perm other) :
    (bookIssues seen books).Perm (bookIssues seen other) := by
  induction h generalizing seen with
  | nil => rfl
  | cons b _ ih => exact ih.append_left _
  | swap c b rest =>
      have hrest : bookIssues (trim c.name :: trim b.name :: seen) rest
          = bookIssues (trim b.name :: trim c.name :: seen) rest := by
        apply bookIssues_congr
        intro name
        simp only [List.mem_cons]
        exact or_left_comm
      rw [List.perm_iff_count]
      intro issue
      have hnames := (Book.nameIssues_exchange seen b c).count_eq issue
      simp only [bookIssues, List.count_append] at hnames ⊢
      rw [hrest]
      omega
  | trans _ _ ih ih' => exact ih.trans ih'

/-! ## The whole report -/

/-- A list with books has the issues of its books. -/
theorem catalogIssues_of_ne_nil {books : List Book} (h : books ≠ []) :
    catalogIssues books = bookIssues [] books := by
  simp [catalogIssues, h]

/-- **All defects, and nothing else.**  A list of books passes its check exactly when it has
books, all with names and files that are not blank, and no two with one name but for blanks
around it.  An empty list is reported as that; in any other one each book is reported, in
order, for a name that is blank or that a book before it has, and for a file that is blank.
So a name is reported as repeated once less than there are books of it, a blank one never,
and books in another order are reported for the same. -/
theorem catalogIssues_defects (books : List Book) :
    (catalogIssues books = [] ↔
      books ≠ [] ∧ (∀ b ∈ books, trim b.name ≠ "" ∧ trim b.file ≠ "") ∧
        (books.map fun b => trim b.name).Nodup) ∧
    (books = [] → catalogIssues books = [.emptyBookList]) ∧
    (books ≠ [] →
      catalogIssues books = (books.mapIdx fun i b => b.defects (books.take i)).flatten) ∧
    (∀ name, name ≠ "" → (catalogIssues books).count (.duplicateBook name) =
      (books.map fun b => trim b.name).count name - 1) ∧
    .duplicateBook "" ∉ catalogIssues books ∧
    ∀ other, books.Perm other → (catalogIssues books).Perm (catalogIssues other) := by
  refine ⟨catalogIssues_eq_nil_iff, ?_, ?_, ?_, ?_, ?_⟩
  · rintro rfl
    rfl
  · intro hne
    have hseen : ∀ name, name ∈ ([] : List String) ↔
        ∃ a ∈ ([] : List Book), trim a.name = name := by
      simp
    rw [catalogIssues_of_ne_nil hne, bookIssues_eq hseen]
    simp only [List.nil_append]
  · intro name hname
    by_cases hne : books = []
    · simp [hne, catalogIssues, bookIssues]
    · rw [catalogIssues_of_ne_nil hne, count_bookIssues hname]
      simp
  · by_cases hne : books = []
    · simp [hne, catalogIssues, bookIssues]
    · rw [catalogIssues_of_ne_nil hne]
      exact duplicateBook_empty_notMem books
  · intro other h
    rw [catalogIssues, catalogIssues, h.isEmpty_eq]
    exact (bookIssues_perm h).append_left _

/-- Of two books with one name the second repeats it, and a blank name is not repeated. -/
example :
    catalogIssues
        [⟨"Optics", "a.html", []⟩, ⟨"", " ", []⟩, ⟨" Optics", "", []⟩, ⟨" ", "b.html", []⟩] =
      [.missingField none .name, .missingField none .file, .duplicateBook "Optics",
        .missingField (some "Optics") .file, .missingField none .name] := by
  decide

end BookCensus
