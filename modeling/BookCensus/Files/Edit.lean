import BookCensus.Files.System

/-!
# Changing a file system

The program reads files and writes none.  What changes them stands outside of it: someone puts
a catalog, books and links in place, and takes them away again, before a run and between two
runs.  These are the steps of that someone, for setting the scene of a run.  A file may be
written below directories that are not there yet, which are made on the way.
-/

namespace BookCensus

/-- The last part of a path that counts. -/
def Path.fileName (path : String) : String :=
  String.ofList ((dropIdle path.toList.reverse).takeWhile (· ≠ '/')).reverse

namespace FileNode

/-- A node with another put at a location, in directories that are made when
they are missing. -/
def put (new : FileNode) : Location → FileNode → FileNode
  | [], _ => new
  | name :: rest, .directory entries =>
      let below := (entries.lookup name).getD (.directory [])
      .directory ((name, put new rest below) :: entries.filter (·.1 ≠ name))
  | name :: rest, _ => .directory [(name, put new rest (.directory []))]

/-- A node without what stands at a location below it. -/
def erase : Location → FileNode → FileNode
  | [name], .directory entries => .directory (entries.filter (·.1 ≠ name))
  | name :: rest, .directory entries =>
      .directory (entries.map fun e => if e.1 = name then (name, erase rest e.2) else e)
  | _, node => node

end FileNode

namespace FileSystem

/-- The file system with a node put at a location. -/
def putAt (fs : FileSystem) (node : FileNode) (place : Location) : FileSystem :=
  match FileNode.put node place fs.root with
  | .directory entries => { fs with entries := entries }
  | _ => fs

/-- The location that a path leads to, directories on the way being made: the
location itself when all are there, otherwise what is left below the deepest
one that is. -/
def place (fs : FileSystem) : Nat → String → Location
  | 0, path => Path.parts path.toList |>.map String.ofList
  | fuel + 1, path =>
      match fs.locate path with
      | .ok l => l
      | .error _ =>
          match Path.parent? path with
          | some above =>
              fs.place fuel (if above.isEmpty then "." else above) ++ [Path.fileName path]
          | none => []

/-- The file system with a file written. -/
def write (fs : FileSystem) (path : String) (bytes : List UInt8) : FileSystem :=
  fs.putAt (.file bytes) (fs.place path.length path)

/-- The file system with a directory made, unless it is there. -/
def makeDirectory (fs : FileSystem) (path : String) : FileSystem :=
  if fs.isDirectory path then fs else fs.putAt (.directory []) (fs.place path.length path)

/-- The location of the last part of a path, without following it. -/
def entryPlace (fs : FileSystem) (path : String) : Location :=
  match Path.parent? path with
  | some above =>
      fs.place path.length (if above.isEmpty then "." else above) ++ [Path.fileName path]
  | none => []

/-- The file system with a link made. -/
def makeLink (fs : FileSystem) (path target : String) : FileSystem :=
  fs.putAt (.link target) (fs.entryPlace path)

/-- The file system without what a path names. -/
def remove (fs : FileSystem) (path : String) : FileSystem :=
  match FileNode.erase (fs.entryPlace path) fs.root with
  | .directory entries => { fs with entries := entries }
  | _ => fs

end FileSystem

end BookCensus
