import BookCensus.Cli.Options

/-!
# The commands

The command line has three commands: to count elements in a book, to check a
selector, and to list the books.
-/

namespace BookCensus.Cli

open Text

/-- A command with what it was given. -/
inductive Command where
  | elements (catalog : Option String) (book element : String) (booksRoot : Option String)
      (maxBytes : Option Nat) (compact : Bool)
  | validate (selector : String)
  | books (catalog : Option String) (compact : Bool)
  deriving Repr

/-- A whole number that fits sixty-four bits; a plus sign may stand in front. -/
def byteCount? (text : String) : Option Nat :=
  let ds := match text.toList with
    | '+' :: ds => ds
    | ds => ds
  let n := decimalValue ds
  if !ds.isEmpty && ds.all isDigit && n < 18446744073709551616 then some n else none

/-- The options that every command has.  The first two set how much is logged. -/
def commonSpecs : List OptionSpec :=
  [{ name := "quiet", letter := some 'q', hasValue := false },
   { name := "verbose", letter := some 'v', hasValue := false },
   { name := "help", letter := some 'h', hasValue := false }]

/-- The options in front of the command. -/
def topSpecs : List OptionSpec :=
  { name := "version", letter := some 'V', hasValue := false } :: commonSpecs

/-- The path of a catalog, which may not be empty. -/
def catalogSpec : OptionSpec :=
  { name := "catalog", letter := some 'c', hasValue := true, accepts := (!·.isEmpty) }

/-- Output on one line. -/
def compactSpec : OptionSpec :=
  { name := "compact", hasValue := false }

/-- The options of the command that counts elements. -/
def elementsSpecs : List OptionSpec :=
  [catalogSpec, compactSpec,
   { name := "book", letter := some 'b', hasValue := true },
   { name := "element", letter := some 'e', hasValue := true },
   { name := "books-root", hasValue := true, accepts := (!·.isEmpty) },
   { name := "max-bytes", hasValue := true,
     accepts := fun s => (byteCount? s).isSome }] ++ commonSpecs

/-- An option that has to be there. -/
def required (f : Found) (name : String) : Except Stop String :=
  match f.value? name with
  | some value => .ok value
  | none => .error (.missing ("--" ++ name))

/-- Refuse options that contradict each other. -/
def checkConflict (f : Found) : Except Stop Unit :=
  if f.has "quiet" && f.has "verbose" then .error (.conflict "quiet" "verbose") else .ok ()

/-- The operands of a command that takes so many. -/
def checkOperands (f : Found) (count : Nat) : Except Stop Unit :=
  match f.operands[count]? with
  | some extra => .error (.unknown extra)
  | none => .ok ()

/-- Read the arguments behind the name of a command. -/
def Command.read (name : String) (arguments : List String) : Except Stop Command := do
  let found (specs : List OptionSpec) (operands : Nat) : Except Stop Found := do
    let (f, _) ← readArguments name specs false arguments none ⟨[], []⟩
    checkOperands f operands
    checkConflict f
    return f
  match name with
  | "elements" =>
      let f ← found elementsSpecs 0
      let book ← required f "book"
      let element ← required f "element"
      return .elements (f.value? "catalog") book element (f.value? "books-root")
        ((f.value? "max-bytes").bind byteCount?) (f.has "compact")
  | "validate" =>
      let f ← found commonSpecs 1
      match f.operands.head? with
      | some selector => return .validate selector
      | none => .error (.missing "<SELECTOR>")
  | "books" =>
      let f ← found (catalogSpec :: compactSpec :: commonSpecs) 0
      return .books (f.value? "catalog") (f.has "compact")
  | "help" =>
      match arguments with
      | [] => .error (.help "")
      | [topic] =>
          if ["elements", "validate", "books", "help"].contains topic then .error (.help topic)
          else .error (.unknown topic)
      | _ :: extra :: _ => .error (.unknown extra)
  | _ => .error (.unknown name)

/-- Read a command line. -/
def Command.ofArguments (arguments : List String) : Except Stop Command := do
  let (top, rest) ← readArguments "" topSpecs true arguments none ⟨[], []⟩
  match top.operands, rest with
  | extra :: _, _ => .error (.unknown extra)
  | [], [] => .error (.missing "<COMMAND>")
  | [], name :: rest =>
      let command ← Command.read name rest
      checkConflict top
      return command

end BookCensus.Cli
