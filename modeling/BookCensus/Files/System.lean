import BookCensus.Files.Path

/-!
# A file system

Directories, files and symbolic links, as a tree.  A path is walked part by
part from the root or the current directory; a link is replaced by the path it
holds, at most forty times.  What a path leads to is named by its *location*:
the parts from the root, without links and without dots.
-/

namespace BookCensus

/-- Why a file cannot be reached or read. -/
inductive FileFault where
  | notFound
  | notADirectory
  | isADirectory
  | nameTooLong
  | tooManyLinks
  | zeroInPath
  | notUtf8
  | other (text : String)
  deriving DecidableEq, Repr

namespace FileFault

/-- The name of a kind of fault. -/
def kind : FileFault → String
  | .notFound => "NotFound"
  | .notADirectory => "NotADirectory"
  | .isADirectory => "IsADirectory"
  | .nameTooLong => "InvalidFilename"
  | .tooManyLinks => "FilesystemLoop"
  | .zeroInPath => "InvalidInput"
  | .notUtf8 => "InvalidData"
  | .other _ => "Other"

/-- The wording of a fault. -/
def message : FileFault → String
  | .notFound => "No such file or directory (os error 2)"
  | .notADirectory => "Not a directory (os error 20)"
  | .isADirectory => "Is a directory (os error 21)"
  | .nameTooLong => "File name too long (os error 36)"
  | .tooManyLinks => "Too many levels of symbolic links (os error 40)"
  | .zeroInPath => "file name contained an unexpected NUL byte"
  | .notUtf8 => "stream did not contain valid UTF-8"
  | .other text => text

end FileFault

/-- A file with its bytes, a directory with its entries, or a link. -/
inductive FileNode where
  | file (bytes : List UInt8)
  | directory (entries : List (String × FileNode))
  | link (target : String)

/-- A location: the parts of a path from the root. -/
abbrev Location := List String

/-- The written form of a location. -/
def Location.text (l : Location) : String :=
  "/" ++ String.intercalate "/" l

/-- Whether a location is another or lies below it. -/
def Location.isWithin (root l : Location) : Bool :=
  root.isPrefixOf l

/-- The entries at the root, and the location of the current directory. -/
structure FileSystem where
  entries : List (String × FileNode)
  current : Location

namespace FileNode

/-- What stands below a node at a location. -/
def at? : Location → FileNode → Option FileNode
  | [], node => some node
  | name :: rest, .directory entries => (entries.lookup name).bind (at? rest)
  | _ :: _, _ => none

end FileNode

namespace FileSystem

/-- The root directory. -/
def root (fs : FileSystem) : FileNode :=
  .directory fs.entries

/-- What stands at a location. -/
def at? (fs : FileSystem) (l : Location) : Option FileNode :=
  fs.root.at? l

/-- The parts of a path to walk.  A slash at the end asks for a directory, as a
dot does. -/
def steps (path : String) : List String :=
  let cs := path.toList
  (Path.parts cs).map String.ofList ++ (if cs.getLast? = some '/' then ["."] else [])

/-- How many links may be followed on one way. -/
def linkLimit : Nat := 40

/-- Walk on from a location.  Every part but the last must lead to a directory,
and a link leads where its path leads from the directory that it stands in. -/
def walk (fs : FileSystem) (links : Nat) (place : Location) (todo : List String) :
    Except FileFault Location :=
  match todo with
  | [] => .ok place
  | part :: rest =>
      match fs.at? place with
      | some (.directory entries) =>
          if part = "." then fs.walk links place rest
          else if part = ".." then fs.walk links place.dropLast rest
          else if 255 < part.utf8ByteSize then .error .nameTooLong
          else
            match entries.lookup part with
            | none => .error .notFound
            | some (.link target) =>
                match links with
                | 0 => .error .tooManyLinks
                | links + 1 =>
                    let start := if Path.isAbsolute target then [] else place
                    fs.walk links start (steps target ++ rest)
            | some _ => fs.walk links (place ++ [part]) rest
      | _ => .error .notADirectory
termination_by (links, todo.length)

/-- The location that a path leads to. -/
def locate (fs : FileSystem) (path : String) : Except FileFault Location :=
  if path.toList.contains '\x00' then .error .zeroInPath
  else if path.isEmpty then .error .notFound
  else fs.walk linkLimit (if Path.isAbsolute path then [] else fs.current) (steps path)

/-- The bytes of the file that a path leads to. -/
def read (fs : FileSystem) (path : String) : Except FileFault (List UInt8) := do
  let place ← fs.locate path
  match fs.at? place with
  | some (.file bytes) => .ok bytes
  | some _ => .error .isADirectory
  | none => .error .notFound

/-- The size of what a path leads to; directories count as one block. -/
def size (fs : FileSystem) (path : String) : Except FileFault Nat := do
  let place ← fs.locate path
  match fs.at? place with
  | some (.file bytes) => .ok bytes.length
  | some _ => .ok 4096
  | none => .error .notFound

/-- Whether a path leads to a directory. -/
def isDirectory (fs : FileSystem) (path : String) : Bool :=
  match fs.locate path with
  | .ok place =>
      match fs.at? place with
      | some (.directory _) => true
      | _ => false
  | .error _ => false

end FileSystem

end BookCensus
