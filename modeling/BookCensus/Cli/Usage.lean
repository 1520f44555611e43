import BookCensus.Cli.Command

/-!
# Help and complaints
-/

namespace BookCensus.Cli

/-- The name of the program. -/
def programName : String := "book-elements"

/-- The version of the program. -/
def programVersion : String := "0.1.0"

/-- The lines on the options that every command has. -/
def commonHelp : List String :=
  ["  -q, --quiet    Only log errors", "  -v, --verbose  Log debug detail to stderr",
   "  -h, --help     Print help"]

/-- The help on a command, or on all of them. -/
def helpText (command : String) : String :=
  let lines := match command with
    | "elements" =>
        ["Count elements matching a selector in every section of a book", "",
         "Usage: book-elements elements [OPTIONS] --book <BOOK> --element <ELEMENT>", "",
         "Options:", "  -c, --catalog <CATALOG>", "  -b, --book <BOOK>",
         "  -e, --element <ELEMENT>", "      --books-root <BOOKS_ROOT>",
         "      --max-bytes <MAX_BYTES>", "      --compact"] ++ commonHelp
    | "validate" =>
        ["Check a selector's syntax without opening any book", "",
         "Usage: book-elements validate [OPTIONS] <SELECTOR>", "", "Options:"] ++ commonHelp
    | "books" =>
        ["List the books available for searching", "",
         "Usage: book-elements books [OPTIONS]", "", "Options:", "  -c, --catalog <CATALOG>",
         "      --compact"] ++ commonHelp
    | _ =>
        ["Count custom elements per section of structured textbooks", "",
         "Usage: book-elements [OPTIONS] <COMMAND>", "", "Commands:",
         "  elements  Count elements matching a selector in every section of a book",
         "  validate  Check a selector's syntax without opening any book",
         "  books     List the books available for searching", "", "Options:"]
          ++ commonHelp ++ ["  -V, --version  Print version"]
  String.intercalate "\n" lines ++ "\n"

/-- The wording of a complaint about the arguments. -/
def Stop.message : Stop → String
  | .unknown argument => "unexpected argument '" ++ argument ++ "' found"
  | .repeated name => "the argument '--" ++ name ++ "' cannot be used multiple times"
  | .valueMissing name => "a value is required for '--" ++ name ++ "' but none was supplied"
  | .valueRefused name value => "invalid value '" ++ value ++ "' for '--" ++ name ++ "'"
  | .valueUnexpected name => "unexpected value for '--" ++ name ++ "' found"
  | .conflict first second =>
      "the argument '--" ++ first ++ "' cannot be used with '--" ++ second ++ "'"
  | .missing what => "the following required arguments were not provided: " ++ what
  | .help command => helpText command
  | .version => programName ++ " " ++ programVersion

end BookCensus.Cli
