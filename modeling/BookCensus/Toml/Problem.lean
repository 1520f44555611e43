import BookCensus.Toml.Span

/-!
# What can be wrong with a document

A complaint has a description and, where it helps, a list of what would have
been right.
-/

namespace BookCensus.Toml

/-- Something that would have been right: a text as it stands, or a kind of
thing. -/
inductive Expected where
  | sign (text : String)
  | thing (words : String)
  deriving DecidableEq, Repr

/-- The wording of what would have been right. -/
def Expected.text : Expected → String
  | .sign "\n" => "newline"
  | .sign text => "`" ++ text ++ "`"
  | .thing words => words

/-- The parts of a number with a fraction or an exponent. -/
inductive NumberPart where
  | mantissa
  | fraction
  | exponent
  deriving DecidableEq, Repr

/-- The name of a part of a number. -/
def NumberPart.name : NumberPart → String
  | .mantissa => "mantissa"
  | .fraction => "fraction"
  | .exponent => "exponent"

/-- The four ways to write text. -/
inductive Quoting where
  | basic
  | literal
  | longBasic
  | longLiteral
  deriving DecidableEq, Repr

namespace Quoting

/-- The signs on either side. -/
def delimiter : Quoting → String
  | .basic => "\""
  | .literal => "'"
  | .longBasic => "\"\"\""
  | .longLiteral => "'''"

/-- Its name in a complaint. -/
def name : Quoting → String
  | .basic => "basic string"
  | .literal => "literal string"
  | .longBasic => "multi-line basic string"
  | .longLiteral => "multi-line literal string"

/-- Whether the text may go over several lines. -/
def isLong : Quoting → Bool
  | .longBasic => true
  | .longLiteral => true
  | _ => false

/-- Whether a backslash means something. -/
def hasEscapes : Quoting → Bool
  | .basic => true
  | .longBasic => true
  | _ => false

/-- What may stand between the signs as it is. -/
def expected : Quoting → List Expected
  | .basic => [.thing "non-double-quote visible characters", .sign "\\"]
  | .literal => [.thing "non-single-quote visible characters"]
  | .longBasic => [.sign "\\", .thing "characters"]
  | .longLiteral => [.thing "characters"]

end Quoting

/-- What can be wrong with a document. -/
inductive Problem where
  | badComment
  | loneReturn
  | noKey
  | noValue
  | emptyKey
  | badKey
  | longKey (quoting : Quoting)
  | noTableOpening
  | unclosedTable
  | unclosedTableList (missing : String)
  | moreOnLine
  | secondSign
  | noListOpening
  | noBraceOpening
  | unclosedList
  | extraListComma
  | noListComma
  | signInList
  | unclosedBrace
  | extraBraceComma
  | noBraceComma
  | noBraceKey
  | noBraceSign
  | secondBraceSign
  | tooDeep
  | unclosedText (quoting : Quoting)
  | badText (quoting : Quoting)
  | badEscape
  | shortCode
  | badCode
  | notQuoted
  | misspelt (name : String)
  | badNumber (part : NumberPart)
  | badReal
  | leadingZero
  | strayUnderscore
  | signedBase
  | upperBase (sign : String)
  | badDigits (base : String)
  | secondNumberSign
  | hugeInteger
  | hugeReal
  | badDateTime
  | duplicateKey
  | notExtensible (kind : String)
  | wrongType (found wanted : String)
  | unknownVariant (found : String) (known : List String)
  | notVariant
  | variantCount (several : Bool)
  | fullVariant (kind : String)
  | notTable (found : String)
  deriving DecidableEq, Repr

namespace Problem

/-- The signs and letters that may follow a backslash, as a complaint lists
them. -/
def escapes : List Expected :=
  ["b", "e", "f", "n", "r", "\\", "\"", "x", "u", "U"].map .sign

/-- The characters of a key without quotes. -/
def keyCharacters : List Expected :=
  [.thing "letters", .thing "numbers", .sign "-", .sign "_"]

/-- What is wrong, in words. -/
def description : Problem → String
  | .badComment => "invalid comment character"
  | .loneReturn => "carriage return must be followed by newline"
  | .noKey => "invalid key"
  | .noValue => "key with no value"
  | .emptyKey => "unquoted keys cannot be empty"
  | .badKey => "invalid unquoted key"
  | .longKey quoting => "keys cannot be " ++ quoting.name ++ "s"
  | .noTableOpening => "missing table open"
  | .unclosedTable => "unclosed table"
  | .unclosedTableList _ => "unclosed array table"
  | .moreOnLine => "unexpected key or value"
  | .secondSign => "extra `=`"
  | .noListOpening => "missing array opening"
  | .noBraceOpening => "missing inline table opening"
  | .unclosedList => "unclosed array"
  | .extraListComma => "extra comma in array"
  | .noListComma => "missing comma between array elements"
  | .signInList => "unexpected `=` in array"
  | .unclosedBrace => "unclosed inline table"
  | .extraBraceComma => "extra comma in inline table"
  | .noBraceComma => "missing comma between key-value pairs"
  | .noBraceKey => "missing key for inline table element"
  | .noBraceSign => "missing assignment between key-value pairs"
  | .secondBraceSign => "extra assignment between key-value pairs"
  | .tooDeep => "cannot recurse further; max recursion depth met"
  | .unclosedText quoting => "invalid " ++ quoting.name
  | .badText quoting => "invalid " ++ quoting.name
  | .badEscape => "missing escaped value"
  | .shortCode => "too few unicode value digits"
  | .badCode => "invalid value"
  | .notQuoted => "string values must be quoted"
  | .misspelt "true" => "invalid boolean"
  | .misspelt "false" => "invalid boolean"
  | .misspelt _ => "invalid float"
  | .badNumber part => "invalid " ++ part.name
  | .badReal => "invalid float"
  | .leadingZero => "unexpected leading zero"
  | .strayUnderscore => "`_` may only go between digits"
  | .signedBase => "integers with a radix cannot be signed"
  | .upperBase _ => "radix must be lowercase"
  | .badDigits base => "invalid " ++ base ++ " number"
  | .secondNumberSign => "redundant numeric sign"
  | .hugeInteger => "integer number overflowed"
  | .hugeReal => "floating-point number overflowed"
  | .badDateTime => "invalid datetime"
  | .duplicateKey => "duplicate key"
  | .notExtensible kind => "cannot extend value of type " ++ kind ++ " with a dotted key"
  | .wrongType found wanted => "invalid type: " ++ found ++ ", expected " ++ wanted
  | .unknownVariant found known =>
      "unknown variant `" ++ found ++ "`, expected "
        ++ String.intercalate " or " (known.map fun name => (Expected.sign name).text)
  | .notVariant => "wanted string or table"
  | .variantCount false => "wanted exactly 1 element, found 0 elements"
  | .variantCount true => "wanted exactly 1 element, more than 1 element"
  | .fullVariant kind => "expected empty " ++ kind
  | .notTable found => "expected table, found " ++ found

/-- What would have been right, where that is said. -/
def expected : Problem → Option (List Expected)
  | .badComment => some [.thing "printable characters"]
  | .loneReturn => some [.sign "\n"]
  | .noKey => some [.thing "key"]
  | .noValue => some [.sign "="]
  | .emptyKey => some keyCharacters
  | .badKey => some keyCharacters
  | .longKey _ => some [.thing "basic string", .thing "literal string"]
  | .noTableOpening => some [.sign "["]
  | .unclosedTable => some [.sign "]"]
  | .unclosedTableList missing => some [.sign missing]
  | .moreOnLine => some [.sign "\n", .sign "#"]
  | .secondSign => some []
  | .noListOpening => some [.sign "["]
  | .noBraceOpening => some [.sign "\x7b"]
  | .unclosedList => some [.sign "]"]
  | .extraListComma => some [.thing "value"]
  | .noListComma => some [.sign ","]
  | .signInList => some [.thing "value", .sign "]"]
  | .unclosedBrace => some [.sign "\x7d"]
  | .extraBraceComma => some [.thing "key"]
  | .noBraceComma => some [.sign ","]
  | .noBraceKey => some [.thing "key"]
  | .noBraceSign => some [.sign "="]
  | .secondBraceSign => some []
  | .unclosedText quoting => some [.sign quoting.delimiter]
  | .badText quoting => some quoting.expected
  | .badEscape => some escapes
  | .shortCode => some [.thing "unicode hexadecimal value"]
  | .badCode => some [.thing "unicode hexadecimal value"]
  | .notQuoted => some [.thing "literal string"]
  | .misspelt name => some [.sign name]
  | .badNumber _ => some [.thing "digits"]
  | .badReal => some []
  | .leadingZero => some [.thing "nonzero digit"]
  | .strayUnderscore => some []
  | .signedBase => some []
  | .upperBase sign => some [.sign sign]
  | .badDigits _ => some [.thing "digits"]
  | .secondNumberSign => some []
  | _ => none

/-- The wording of a complaint. -/
def message (p : Problem) : String :=
  match p.expected with
  | .none => p.description
  | .some [] => p.description ++ ", expected nothing"
  | .some list => p.description ++ ", expected " ++ String.intercalate ", " (list.map Expected.text)

end Problem

/-- A complaint and what it points at. -/
abbrev Error := Located Problem

/-- Complain about a stretch of the document. -/
def complain {α : Type} (problem : Problem) (span : Span) : Except Error α :=
  .error ⟨span, problem⟩

end BookCensus.Toml
