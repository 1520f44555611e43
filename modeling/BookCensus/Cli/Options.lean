import BookCensus.Text.Ascii

/-!
# Options on a command line

An option is a dash and a letter, or two dashes and a name.  A flag stands
alone; any other option has a value, which may be attached to it or follow it.
Letters of flags may share one dash.  Behind two dashes alone, and where no dash
stands in front, arguments are operands.
-/

namespace BookCensus.Cli

/-- An option: its name, its letter if it has one, whether it has a value, and
which values will do. -/
structure OptionSpec where
  name : String
  letter : Option Char := none
  hasValue : Bool
  accepts : String → Bool := fun _ => true

/-- Why arguments are refused, or what is asked for instead of a run. -/
inductive Stop where
  | unknown (argument : String)
  | repeated (name : String)
  | valueMissing (name : String)
  | valueRefused (name value : String)
  | valueUnexpected (name : String)
  | conflict (first second : String)
  | missing (what : String)
  | help (command : String)
  | version
  deriving DecidableEq, Repr

/-- The options found, with their values, and the operands. -/
structure Found where
  options : List (String × String)
  operands : List String
  deriving Repr

namespace Found

/-- Whether an option was found. -/
def has (f : Found) (name : String) : Bool :=
  (f.options.lookup name).isSome

/-- The value of an option. -/
def value? (f : Found) (name : String) : Option String :=
  f.options.lookup name

/-- Add an option, which may be given once.  The option `help` stops. -/
def add (command : String) (f : Found) (spec : OptionSpec) (value : String) :
    Except Stop Found :=
  if spec.name = "help" then .error (.help command)
  else if spec.name = "version" then .error .version
  else if f.has spec.name then .error (.repeated spec.name)
  else if spec.accepts value then .ok { f with options := (spec.name, value) :: f.options }
  else .error (.valueRefused spec.name value)

end Found

/-- The letters behind one dash.  An option with a value takes what is left of
them; if nothing is, it waits for the next argument. -/
def readLetters (command : String) (specs : List OptionSpec) :
    List Char → Found → Except Stop (Found × Option OptionSpec)
  | [], f => .ok (f, none)
  | c :: rest, f =>
      match specs.find? (·.letter = some c) with
      | none => .error (.unknown (String.ofList ['-', c]))
      | some spec =>
          if spec.hasValue then
            match rest with
            | [] => .ok (f, some spec)
            | '=' :: value => do return (← f.add command spec (String.ofList value), none)
            | value => do return (← f.add command spec (String.ofList value), none)
          else do readLetters command specs rest (← f.add command spec "")

/-- The name behind two dashes, with a value if there is a sign of equality. -/
def readName (command : String) (specs : List OptionSpec) (text : List Char) (f : Found) :
    Except Stop (Found × Option OptionSpec) :=
  let name := String.ofList (text.takeWhile (· ≠ '='))
  let value? := (text.dropWhile (· ≠ '=')).tail?
  match specs.find? (·.name = name), value? with
  | none, _ => .error (.unknown ("--" ++ name))
  | some spec, none =>
      if spec.hasValue then .ok (f, some spec)
      else do return (← f.add command spec "", none)
  | some spec, some value =>
      if spec.hasValue then do return (← f.add command spec (String.ofList value), none)
      else .error (.valueUnexpected name)

/-- Whether an argument is an option and no operand: a dash with something
behind it. -/
def isOption (argument : String) : Bool :=
  match argument.toList with
  | '-' :: _ :: _ => true
  | _ => false

/-- Read the arguments of a command.  With `first` set, reading stops before the
first operand that options allow, and the arguments from there on are left. -/
def readArguments (command : String) (specs : List OptionSpec) (first : Bool) :
    List String → Option OptionSpec → Found → Except Stop (Found × List String)
  | [], none, f => .ok (f, [])
  | [], some spec, _ => .error (.valueMissing spec.name)
  | argument :: rest, some spec, f =>
      if isOption argument then .error (.valueMissing spec.name)
      else do readArguments command specs first rest none (← f.add command spec argument)
  | argument :: rest, none, f =>
      match argument.toList with
      | ['-', '-'] => .ok ({ f with operands := f.operands ++ rest }, [])
      | '-' :: '-' :: text => do
          let (f, waiting) ← readName command specs text f
          readArguments command specs first rest waiting f
      | '-' :: c :: letters => do
          let (f, waiting) ← readLetters command specs (c :: letters) f
          readArguments command specs first rest waiting f
      | _ =>
          if first then .ok (f, argument :: rest)
          else readArguments command specs first rest none
            { f with operands := f.operands ++ [argument] }

end BookCensus.Cli
