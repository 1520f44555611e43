import BookCensus.Catalog.Validation
import BookCensus.Number.Shortest
import BookCensus.Toml.Parser

/-!
# Catalogs in TOML

A catalog has a table `settings` and a list `books`; other keys do not count.
In a book every key but the two fields is passed through: as JSON, where a date
is an object of one member and a number that is none is missing.
-/

namespace BookCensus

open Toml

/-- The name of the only member of a date in JSON. -/
def dateKey : String := "$__toml_private_datetime"

/-- A date in JSON. -/
def Toml.DateTime.toJson (d : DateTime) : Json :=
  .object [(dateKey, .string d.text)]

mutual

/-- A TOML value in JSON. -/
def Toml.Value.toJson : Value → Json
  | .string s => .string s
  | .int n => .int n
  | .float (.finite x) => .float x
  | .float _ => .null
  | .bool b => .bool b
  | .dateTime d => d.toJson
  | .array items => .array (itemsToJson items)
  | .table members => .object (Json.sortMembers (membersToJson members))

/-- The items of a list in JSON. -/
def Toml.itemsToJson : List (Located Value) → List Json
  | [] => []
  | ⟨_, v⟩ :: rest => v.toJson :: itemsToJson rest

/-- The members of a table in JSON. -/
def Toml.membersToJson : Table → List (String × Json)
  | [] => []
  | (name, ⟨_, v⟩) :: rest => (name, v.toJson) :: membersToJson rest

end

/-- A character in a text that a complaint quotes. -/
def Toml.quotedChar (c : Char) : List Char :=
  match c with
  | '"' => ['\\', '"']
  | '\\' => ['\\', '\\']
  | '\n' => ['\\', 'n']
  | '\r' => ['\\', 'r']
  | '\t' => ['\\', 't']
  | '\x00' => ['\\', '0']
  | _ =>
      if c.toNat < 0x20 ∨ (0x7f ≤ c.toNat ∧ c.toNat < 0xa0) then
        "\\u\x7b".toList ++ Nat.toDigits 16 c.toNat ++ ['\x7d']
      else [c]

/-- A number in a complaint: without exponent, with a digit on either side of
the point. -/
def Toml.Real.text : Real → String
  | .finite x => String.ofList (Number.FloatStyle.write ⟨-400, 400, 1⟩ x)
  | .infinite false => "inf"
  | .infinite true => "-inf"
  | .notANumber => "NaN"

/-- What a complaint calls a value that should be something else. -/
def Toml.Value.found : Value → String
  | .string s => "string \"" ++ String.ofList (s.toList.flatMap quotedChar) ++ "\""
  | .int n => "integer `" ++ toString n ++ "`"
  | .float x => "floating point `" ++ x.text ++ "`"
  | .bool b => "boolean `" ++ toString b ++ "`"
  | .dateTime _ => "map"
  | .array _ => "sequence"
  | .table _ => "map"

/-- Complain about a value that should be something else. -/
def Toml.wrongType {α : Type} (wanted : String) (v : Located Value) : Except Toml.Error α :=
  complain (.wrongType v.value.found wanted) v.span

/-- A value that has to be a text. -/
def Toml.asString (wanted : String) (v : Located Value) : Except Toml.Error String :=
  match v.value with
  | .string s => .ok s
  | _ => wrongType wanted v

/-- Nothing: an empty list or an empty table. -/
def Toml.asNothing (v : Located Value) : Except Toml.Error Unit :=
  match v.value with
  | .array [] => .ok ()
  | .table [] => .ok ()
  | .array _ => complain (.fullVariant "array") v.span
  | .table _ => complain (.fullVariant "table") v.span
  | other => complain (.notTable other.kind) v.span

/-- A text match mode: its name, or a table that holds nothing under its name. -/
def TextMatch.ofToml (v : Located Value) : Except Toml.Error TextMatch :=
  let named (name : String) : Except Toml.Error TextMatch :=
    match TextMatch.ofName? name with
    | some mode => .ok mode
    | none =>
        complain (.unknownVariant name [TextMatch.substring.name, TextMatch.pattern.name]) v.span
  match v.value with
  | .string name => named name
  | .table [] => complain (.variantCount false) v.span
  | .table [(name, inner)] => do
      let mode ← named name
      asNothing inner
      return mode
  | .table _ => complain (.variantCount true) v.span
  | _ => complain .notVariant v.span

/-- A text match mode in JSON: its name, or an object with nothing under it. -/
def TextMatch.ofJson? : Json → Option TextMatch
  | .string name => TextMatch.ofName? name
  | .object [(name, .null)] => TextMatch.ofName? name
  | _ => none

namespace Settings

/-- Settings with the root of a value. -/
def setRoot (s : Settings) (v : Located Value) : Except Toml.Error Settings := do
  return { s with booksRoot := some (← asString "path string" v) }

/-- Settings with the mode of a value. -/
def setMode (s : Settings) (v : Located Value) : Except Toml.Error Settings := do
  return { s with textMatch := ← TextMatch.ofToml v }

/-- Settings with one member of a table; members of other names do not count. -/
def add (s : Settings) : String × Located Value → Except Toml.Error Settings
  | ("books_root", v) => s.setRoot v
  | ("text_match", v) => s.setMode v
  | _ => .ok s

/-- Settings from a table, or from a list with their values in order. -/
def ofToml (v : Located Value) : Except Toml.Error Settings :=
  match v.value with
  | .table members => members.foldlM add .initial
  | .array [] => .ok .initial
  | .array [root] => setRoot .initial root
  | .array (root :: mode :: _) => do (← setRoot .initial root).setMode mode
  | .dateTime _ => .ok .initial
  | _ => wrongType "struct Settings" v

end Settings

namespace Book

/-- A book with one more member of its table: a field, or one passed through. -/
def add (b : Book) (m : String × Located Value) : Except Toml.Error Book := do
  if m.1 = BookField.name.key then return { b with name := ← asString "a string" m.2 }
  else if m.1 = BookField.file.key then return { b with file := ← asString "a string" m.2 }
  else return { b with extra := b.extra ++ [(m.1, m.2.value.toJson)] }

/-- A book from the members of its table. -/
def ofMembers (members : Table) : Except Toml.Error Book := do
  let b ← members.foldlM add ⟨"", "", []⟩
  return { b with extra := Json.sortMembers b.extra }

/-- A book from a table. -/
def ofToml (v : Located Value) : Except Toml.Error Book :=
  match v.value with
  | .table members => ofMembers members
  | .dateTime d => ofMembers [(dateKey, ⟨v.span, .string d.text⟩)]
  | _ => wrongType "struct Book" v

end Book

namespace Catalog

/-- A catalog with one member of a document; members of other names do not
count. -/
def add (c : Catalog) : String × Located Value → Except Toml.Error Catalog
  | ("settings", v) => do return { c with settings := ← Settings.ofToml v }
  | ("books", v) =>
      match v.value with
      | .array items => do return { c with books := ← items.mapM Book.ofToml }
      | _ => wrongType "a sequence" v
  | _ => .ok c

/-- A catalog from the text of a document. -/
def ofToml (text : String) : Except Toml.Report Catalog :=
  let document := text.toList
  let answer := do
    let members ← Toml.parse document
    members.foldlM add ⟨.initial, []⟩
  answer.mapError (·.report document)

end Catalog

end BookCensus
