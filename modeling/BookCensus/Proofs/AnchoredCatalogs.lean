import BookCensus.Cli.Program
import BookCensus.Proofs.CheckedCatalogs
import BookCensus.Proofs.MemberNames
import BookCensus.Proofs.ParentDirectory
import BookCensus.Proofs.RootConfinement

/-!
# Catalogs from files

A catalog can be read from a text that is at hand or from a file with that text.  Both
ways end alike: with the same complaint, in which only the origin is another, or with
the same books.  A catalog from a file always has a directory for its books besides,
whether it names one or not: a relative one is meant from the directory that holds the
file.

* `ofText_cases` — how reading ends does not depend on the origin;
* `meantRoot_anchored` — what stands in a catalog from a file leads to the directory
  that is meant (`MeantRoot`);
* `load_corresponds` — both ways side by side (`Corresponds`), so that the directory with
  the books is known whenever a catalog was loaded.
-/

namespace BookCensus

namespace Catalog

variable {fs : FileSystem} {path text : String} {d : Location} {links : Nat}

/-! ## Two origins -/

/-- The origin of a text has no influence on how reading it ends; it is only named in
the errors. -/
theorem ofText_cases (text : String) :
    (∃ report, ∀ origin, ofText origin text = .error (.notToml origin report)) ∨
      (∃ issues, ∀ origin, ofText origin text = .error (.invalid origin issues)) ∨
      ∃ c, ∀ origin, ofText origin text = .ok c := by
  cases hread : ofToml text with
  | error report =>
      refine Or.inl ⟨report, ?_⟩
      intro origin
      rw [ofText, hread]
  | ok c =>
      by_cases hissues : catalogIssues c.books = []
      · refine Or.inr (Or.inr ⟨c, ?_⟩)
        intro origin
        exact ofText_eq_ok_iff.mpr ⟨hread, hissues⟩
      · refine Or.inr (Or.inl ⟨catalogIssues c.books, ?_⟩)
        intro origin
        simp only [ofText, hread]

/-! ## The directory with the books -/

/-- What is meant by the directory with the books in a catalog whose file is held by a
directory: that directory when none is named, the one that is named from the root as
it stands, and another one from that directory on.  The links on the way to the file's
directory count when a path leads there first. -/
def MeantRoot (fs : FileSystem) (d : Location) (links : Nat) (named : Option String)
    (root : String) : Prop :=
  match named with
  | none => ∀ l, fs.LeadsTo root l ↔ l = d
  | some named =>
      if Path.isAbsolute named then root = named
      else ∀ l, fs.LeadsTo root l ↔ '\x00' ∉ named.toList ∧
        ∃ more, links + more ≤ FileSystem.linkLimit ∧
          fs.Way d (FileSystem.steps named) more l

/-- A catalog from a file has a directory for its books, the one that is meant. -/
theorem meantRoot_anchored (h : fs.Holds d path links) (c : Catalog) :
    ∃ root, (c.anchored path).settings.booksRoot = some root ∧
      MeantRoot fs d links c.settings.booksRoot root := by
  rw [anchored]
  cases hnamed : c.settings.booksRoot with
  | none => exact ⟨_, rfl, fun l => h.leadsTo_directoryOf_iff⟩
  | some named =>
      refine ⟨_, rfl, ?_⟩
      rw [MeantRoot]
      split
      · next habsolute => simp [Path.join, habsolute]
      · next hrelative =>
          intro l
          exact h.leadsTo_join_directoryOf_iff (by simpa using hrelative)

/-- A catalog that was loaded has a directory with books. -/
theorem exists_booksRoot_of_load {files : FileAccess Id} {c : Catalog}
    (h : Id.run (load files path) = .ok c) : ∃ root, c.settings.booksRoot = some root := by
  obtain ⟨text, found, -, -, rfl⟩ := exists_ofText_of_load h
  exact ⟨_, rfl⟩

end Catalog

namespace Cli

/-- Where the books are, when files are a value. -/
theorem booksRoot_eq (files : FileAccess Id) (env : String → Option String)
    (given : Option String) (c : Catalog) :
    Id.run (booksRoot files env given c) =
      match given, env booksRootVariable with
      | some path, _ => (some path, "")
      | none, none => (c.settings.booksRoot, "")
      | none, some path =>
          if Id.run (files.isDirectory path) then (some path, "")
          else (c.settings.booksRoot, rootWarning path) := by
  unfold booksRoot
  cases given with
  | some path => rfl
  | none =>
      cases env booksRootVariable with
      | none => rfl
      | some path =>
          simp only [Id.run, bind, pure]

/-- When a catalog was loaded, it is known where the books are, whatever else is given. -/
theorem isSome_booksRoot_of_load {files : FileAccess Id} {path : String} {c : Catalog}
    (h : Id.run (Catalog.load files path) = .ok c) (env : String → Option String)
    (given : Option String) : (Id.run (booksRoot files env given c)).1.isSome := by
  obtain ⟨root, hroot⟩ := Catalog.exists_booksRoot_of_load h
  rw [booksRoot_eq, hroot]
  cases given with
  | some path => rfl
  | none =>
      cases env booksRootVariable with
      | none => rfl
      | some path =>
          dsimp only
          split <;> rfl

end Cli

namespace Catalog

/-! ## Both ways -/

/-- How reading a text ends, and how loading a file with that text ends which is held by
a directory: with what is wrong with the TOML, with what is wrong with the books, or
with the same catalog, to which the directory with the books is added. -/
inductive Corresponds (fs : FileSystem) (path : String) (d : Location) (links : Nat) :
    Except CatalogError Catalog → Except CatalogError Catalog → Prop
  | notToml (report : Toml.Report) :
      Corresponds fs path d links (.error (.notToml inlineOrigin report))
        (.error (.notToml path report))
  | invalid (issues : List CatalogIssue) :
      Corresponds fs path d links (.error (.invalid inlineOrigin issues))
        (.error (.invalid path issues))
  | ok {c found : Catalog} {root : String} (books : found.books = c.books)
      (textMatch : found.settings.textMatch = c.settings.textMatch)
      (booksRoot : found.settings.booksRoot = some root)
      (meant : MeantRoot fs d links c.settings.booksRoot root) :
      Corresponds fs path d links (.ok c) (.ok found)

/-- **Catalogs from files.**  A file whose text can be read is held by a directory, and
loading the catalog in it ends as reading the text does, with the directory for the
books as it is meant from there.  After that it is always known where the books are. -/
theorem load_corresponds (fs : FileSystem) (path : String) :
    (∀ text, Id.run (fs.access.readText path) = .ok text →
      ∃ d links, fs.Holds d path links ∧
        Corresponds fs path d links (ofText inlineOrigin text)
          (Id.run (load fs.access path))) ∧
    ∀ c, Id.run (load fs.access path) = .ok c → ∀ env given,
      (Id.run (Cli.booksRoot fs.access env given c)).1.isSome := by
  constructor
  · intro text htext
    have hbytes : fs.read path = .ok (utf8 text) := bind_decodeText_eq_ok_iff.mp htext
    obtain ⟨d, links, hholds⟩ := FileSystem.exists_holds_of_read hbytes
    refine ⟨d, links, hholds, ?_⟩
    rw [load_eq, htext]
    rcases ofText_cases text with ⟨report, h⟩ | ⟨issues, h⟩ | ⟨c, h⟩
    · simp only [h]
      exact .notToml report
    · simp only [h]
      exact .invalid issues
    · simp only [h]
      obtain ⟨root, hroot, hmeant⟩ := meantRoot_anchored hholds c
      exact .ok rfl rfl hroot hmeant
  · intro c hload env given
    exact Cli.isSome_booksRoot_of_load hload env given

/-- A catalog whose books are in a directory beside it. -/
def shelfCatalog : String :=
  "[settings]\nbooks_root = 'html'\n\n[[books]]\nbook_name = 'B'\nfile_name = 'b.html'\n"

/-- The book: one section with one paragraph. -/
def shelfBook : String :=
  "<div data-type='page'><p>1</div>"

/-- The catalog and its book in their directories. -/
def shelf : FileSystem where
  entries :=
    [("lib", .directory
      [("books.toml", .file (utf8 shelfCatalog)),
       ("html", .directory [("b.html", .file (utf8 shelfBook))])])]
  current := []

/-- The way to the catalog in this file system. -/
theorem shelf_leadsTo_catalog : shelf.LeadsTo "./lib//books.toml" ["lib", "books.toml"] := by
  refine ⟨by decide, by decide, 0, by decide, ?_⟩
  rw [show FileSystem.steps "./lib//books.toml" = [".", "lib", "books.toml"] by decide +kernel]
  exact .stay rfl <| .enter (by decide) rfl nofun <| .enter (by decide) rfl nofun <| .here _

/-- What is read there. -/
theorem shelf_readText :
    Id.run (shelf.access.readText "./lib//books.toml") = .ok shelfCatalog := by
  apply bind_decodeText_eq_ok_iff.mpr
  change shelf.read "./lib//books.toml" = .ok (utf8 shelfCatalog)
  rw [FileSystem.read, FileSystem.locate_eq_ok_iff.mpr shelf_leadsTo_catalog]
  rfl

/-- The way to the directory of the catalog. -/
theorem shelf_leadsTo_lib : shelf.LeadsTo "./lib" ["lib"] := by
  refine ⟨by decide, by decide, 0, by decide, ?_⟩
  rw [show FileSystem.steps "./lib" = [".", "lib"] by decide +kernel]
  exact .stay rfl <| .enter (by decide) rfl nofun <| .here _

/-- The relative directory is found from that of the catalog, in spite of the dot and the
doubled slash in the path. -/
theorem load_corresponds_shelf :
    ∃ c root, Id.run (load shelf.access "./lib//books.toml") = .ok c ∧
      c.settings.booksRoot = some root ∧ shelf.LeadsTo root ["lib", "html"] := by
  have hread : (ofText inlineOrigin shelfCatalog).toOption.any
      (fun c => c.settings.booksRoot = some "html") = true := by
    decide +kernel
  obtain ⟨c, hc, hnamed⟩ := exists_ok_of_any hread
  obtain ⟨d, links, hholds, hboth⟩ :=
    (load_corresponds shelf "./lib//books.toml").1 _ shelf_readText
  have hdirectory : directoryOf "./lib//books.toml" = "./lib" := by decide +kernel
  have hd : ["lib"] = d := by
    rw [← hholds.leadsTo_directoryOf_iff, hdirectory]
    exact shelf_leadsTo_lib
  rw [hc] at hboth
  generalize hload : Id.run (load shelf.access "./lib//books.toml") = loaded at hboth
  cases hboth with
  | @ok _ found root _ _ hroot hmeant =>
      rw [of_decide_eq_true hnamed, ← hd] at hmeant
      refine ⟨found, root, rfl, hroot, (hmeant _).mpr ⟨by decide, 0, hholds.links_le, ?_⟩⟩
      rw [show FileSystem.steps "html" = ["html"] by decide +kernel]
      exact .enter (by decide) rfl nofun (.here _)

end Catalog

end BookCensus
