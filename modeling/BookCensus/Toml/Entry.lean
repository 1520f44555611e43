import BookCensus.Toml.Problem
import BookCensus.Toml.Value

/-!
# Tables under construction

While a document is read its tables are open: a header or a dotted key may add
to a table, but only to one that earlier lines leave open to it.  A header
may define a table once; a dotted key adds to tables that dotted keys made.
-/

namespace BookCensus.Toml

/-- How a table came to be: as a step on the way to another, by a dotted key,
or by its own header. -/
inductive TableKind where
  | implied
  | dotted
  | defined
  deriving DecidableEq, Repr

/-- What a key stands for so far: a finished value, a table, or the tables of a
list with the latest first. -/
inductive Entry where
  | value (value : Located Value)
  | table (kind : TableKind) (span : Span) (members : List (String × Entry))
  | tables (span : Span) (items : List (Span × List (String × Entry)))

/-- The members of a table under construction. -/
abbrev Members := List (String × Entry)

mutual

/-- What a key stands for in the end. -/
def Entry.close : Entry → Located Value
  | .value v => v
  | .table _ span members => ⟨span, .table (closeMembers members)⟩
  | .tables span items => ⟨span, .array (closeTables [] items)⟩

/-- The members of a table in the end. -/
def closeMembers : Members → Table
  | [] => []
  | (key, entry) :: rest => (key, entry.close) :: closeMembers rest

/-- The tables of a list in the end, in the order in which they were written. -/
def closeTables (done : List (Located Value)) : List (Span × Members) → List (Located Value)
  | [] => done
  | (span, members) :: rest => closeTables (⟨span, .table (closeMembers members)⟩ :: done) rest

end

/-- A key with its place in the document. -/
abbrev Key := Located String

namespace Members

/-- Put an entry in the place of another. -/
def replace (key : String) (entry : Entry) (members : Members) : Members :=
  members.map fun m => if m.1 = key then (key, entry) else m

/-- Change the table at the end of a path.  Tables that are missing on the way
are made; of a list the latest table counts.  A dotted path may not lead
through a table with a header of its own. -/
def alter (isDotted : Bool) (change : TableKind → Members → Except Error Members) :
    List Key → TableKind → Members → Except Error Members
  | [], kind, members => change kind members
  | key :: path, _, members =>
      match members.lookup key.value with
      | none => do
          let kind : TableKind := if isDotted then .dotted else .implied
          let inner ← alter isDotted change path kind []
          return members ++ [(key.value, .table kind key.span inner)]
      | some (.table kind span inner) =>
          if isDotted && kind = .defined then complain .duplicateKey key.span
          else do
            let inner ← alter isDotted change path kind inner
            return members.replace key.value (.table kind span inner)
      | some (.tables span ((first, latest) :: earlier)) => do
          let latest ← alter isDotted change path .defined latest
          return members.replace key.value (.tables span ((first, latest) :: earlier))
      | some (.tables _ []) => complain .duplicateKey key.span
      | some (.value v) =>
          let kind := match v.value with | .table _ => "inline table" | v => v.kind
          complain (.notExtensible kind) key.span

/-- Add a value under a dotted key. -/
def insert (path : List Key) (key : Key) (value : Located Value) (members : Members) :
    Except Error Members :=
  members.alter true (fun kind members =>
    if (kind == .dotted) == path.isEmpty || (members.lookup key.value).isSome then
      complain .duplicateKey key.span
    else .ok (members ++ [(key.value, .value value)])) path .defined

/-- Define a table by a header. -/
def define (path : List Key) (key : Key) (header : Span) (members : Members) :
    Except Error Members :=
  members.alter false (fun _ members =>
    match members.lookup key.value with
    | none => .ok (members ++ [(key.value, .table .defined header [])])
    | some (.table .implied _ inner) =>
        .ok (members.replace key.value (.table .defined header inner))
    | some _ => complain .duplicateKey key.span) path .defined

/-- Begin a further table of a list by a header. -/
def append (path : List Key) (key : Key) (header : Span) (members : Members) :
    Except Error Members :=
  members.alter false (fun _ members =>
    match members.lookup key.value with
    | none => .ok (members ++ [(key.value, .tables header [(header, [])])])
    | some (.tables span items) =>
        .ok (members.replace key.value (.tables span ((header, []) :: items)))
    | some _ => complain .duplicateKey key.span) path .defined

end Members

end BookCensus.Toml
