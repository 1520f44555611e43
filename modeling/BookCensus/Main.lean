import BookCensus.Cli.Program

/-!
# The executable

Runs the program on the files and the environment of the machine.
-/

namespace BookCensus

/-- The fault that an error of the machine stands for. -/
def FileFault.ofError (e : IO.Error) : FileFault :=
  match e with
  | .noFileOrDirectory _ 2 _ => .notFound
  | .inappropriateType _ 20 _ => .notADirectory
  | .inappropriateType _ 21 _ => .isADirectory
  | .invalidArgument _ 36 _ => .nameTooLong
  | .invalidArgument _ 40 _ => .tooManyLinks
  | e => .other e.toString

/-- What an action on files answers, its errors as faults. -/
def caught {α : Type} (action : IO α) : IO (Except FileFault α) := do
  match ← action.toBaseIO with
  | .ok a => return .ok a
  | .error e => return .error (.ofError e)

/-- The files of the machine. -/
def machineFiles : FileAccess IO where
  locate path := caught do
    let real ← IO.FS.realPath path
    return (Path.parts real.toString.toList).map String.ofList
  read path := caught do
    let bytes ← IO.FS.readBinFile path
    return bytes.toList
  size path := caught do
    let real ← IO.FS.realPath path
    let data ← real.metadata
    return data.byteSize.toNat
  isDirectory path := do
    let answer ← caught do
      let real ← IO.FS.realPath path
      let data ← real.metadata
      return data.type == .dir
    return match answer with
      | .ok isDir => isDir
      | .error _ => false

end BookCensus

open BookCensus in
/-- Run the program and write what it leaves. -/
def main (arguments : List String) : IO UInt32 := do
  let catalog ← IO.getEnv Cli.catalogVariable
  let root ← IO.getEnv Cli.booksRootVariable
  let env (name : String) : Option String :=
    if name = Cli.catalogVariable then catalog
    else if name = Cli.booksRootVariable then root
    else none
  let output ← Cli.run machineFiles env arguments
  (← IO.getStdout).putStr output.stdout
  (← IO.getStderr).putStr output.stderr
  return output.code.toUInt32
