import BookCensus.Toml.Entry
import BookCensus.Toml.Report
import BookCensus.Toml.Scalar
import BookCensus.Toml.Text

/-!
# Reading TOML documents

When the lines of a document are known, the keys and values in them are looked
at one after the other, and put into tables.
-/

namespace BookCensus.Toml

/-- What a key means: its last part, and the parts before that. -/
def keyPath (key : KeyForm) : Except Error (List Key × Key) := do
  let parts ← key.mapM keyPart
  match parts.getLast? with
  | some last => return (parts.dropLast, last)
  | none => complain .emptyKey ⟨0, 0⟩

mutual

/-- What a value means. -/
def Form.read : Form → Except Error (Located Value)
  | .scalar t => do
      match t.kind with
      | .quoted quoting => return ⟨t.span, .string (← unquote quoting t)⟩
      | _ => return ⟨t.span, ← scalar t⟩
  | .list span items => do return ⟨span, .array (← readItems items)⟩
  | .braces span pairs => do return ⟨span, .table (closeMembers (← readPairs [] pairs))⟩

/-- What the values of a list mean. -/
def readItems : List Form → Except Error (List (Located Value))
  | [] => .ok []
  | item :: rest => do
      let item ← item.read
      return item :: (← readItems rest)

/-- What the keys and values in braces mean, put behind the members so far. -/
def readPairs (members : Members) : List (KeyForm × Form) → Except Error Members
  | [] => .ok members
  | (key, value) :: rest => do
      let (path, key) ← keyPath key
      let value ← value.read
      readPairs (← members.insert path key value) rest

end

/-- A document under construction: its tables, and the path of the table that the
latest header opened. -/
structure Draft where
  root : Members
  current : List Key

/-- Put one line into the tables. -/
def Draft.add (d : Draft) : Line → Except Error Draft
  | .header true span key => do
      let (path, key) ← keyPath key
      return ⟨← d.root.append path key span, path ++ [key]⟩
  | .header false span key => do
      let (path, key) ← keyPath key
      return ⟨← d.root.define path key span, path ++ [key]⟩
  | .pair key value => do
      let (path, key) ← keyPath key
      let value ← value.read
      let root ←
        d.root.alter false (fun _ members => members.insert path key value) d.current .defined
      return { d with root := root }

/-- Read a document. -/
def parse (document : List Char) : Except Error Table := do
  let d ← (← lines document).foldlM Draft.add ⟨[], []⟩
  return closeMembers d.root

end BookCensus.Toml
