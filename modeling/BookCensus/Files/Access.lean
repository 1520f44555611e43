import BookCensus.Files.System

/-!
# Access to files

What the program asks of a file system, be it a value or the one of the
machine: where a path leads, what stands there, how large it is.
-/

namespace BookCensus

/-- The questions to a file system. -/
structure FileAccess (m : Type → Type) where
  locate : String → m (Except FileFault Location)
  read : String → m (Except FileFault (List UInt8))
  size : String → m (Except FileFault Nat)
  isDirectory : String → m Bool

/-- A file system that is a value answers from itself. -/
def FileSystem.access (fs : FileSystem) : FileAccess Id where
  locate := fs.locate
  read := fs.read
  size := fs.size
  isDirectory := fs.isDirectory

/-- The text of bytes in UTF-8. -/
def decodeText (bytes : List UInt8) : Except FileFault String :=
  match String.fromUTF8? ⟨bytes.toArray⟩ with
  | some text => .ok text
  | none => .error .notUtf8

namespace FileAccess

variable {m : Type → Type} [Monad m]

/-- The text of a file. -/
def readText (files : FileAccess m) (path : String) : m (Except FileFault String) := do
  let bytes ← files.read path
  return bytes.bind decodeText

end FileAccess

end BookCensus
