import BookCensus.Pattern.Bracket
import BookCensus.Unicode.Category
import BookCensus.Unicode.Property

/-!
# Reading patterns

A pattern is read from left to right.  The groups that are open are kept
innermost first; each holds the branches and parts that stand before it.  How
deep parts are nested is checked when everything has been read.
-/

namespace BookCensus.Pattern

open Text

/-- What has been read of a group, or of the whole pattern: where it begins,
its finished branches, where the branch under way begins and its parts, in
reverse. -/
structure Level where
  start : Position
  branches : List Syntax
  since : Position
  parts : List Syntax

/-- A group that is open: where its opening stands, its kind, what had been
read outside, and how blanks counted there. -/
structure OpenGroup where
  opening : Span
  kind : GroupKind
  outside : Level
  verbose : Bool

/-- The groups that are open, and the names given so far. -/
structure Build where
  level : Level
  groups : List OpenGroup
  names : List (List Char × Span)

namespace Level

/-- Nothing read yet. -/
def opening (p : Position) : Level :=
  ⟨p, [], p, []⟩

/-- Add a part. -/
def push (l : Level) (part : Syntax) : Level :=
  { l with parts := part :: l.parts }

/-- The branch under way. -/
def branch (l : Level) (stop : Position) : Syntax :=
  match l.parts.reverse with
  | [] => .empty ⟨l.since, stop⟩
  | [part] => part
  | parts => .sequence ⟨l.since, stop⟩ parts

/-- The branch under way is finished and a further one begins. -/
def alternate (l : Level) (stop next : Position) : Level :=
  { l with branches := l.branch stop :: l.branches, since := next, parts := [] }

/-- Everything read. -/
def close (l : Level) (stop : Position) : Syntax :=
  match l.branches with
  | [] => l.branch stop
  | branches => .alternation ⟨l.start, stop⟩ (branches.reverse ++ [l.branch stop])

end Level

/-- Letters of any script, and in names the underscore. -/
def opensName (c : Char) : Bool :=
  isLetter c || c = '_'
    || (0x80 ≤ c.toNat && ((Unicode.property? "alphabetic").any fun s => s.contains c))

/-- What may go on with a name: letters, numerals, and some signs. -/
def continuesName (c : Char) : Bool :=
  opensName c || isDigit c || c = '.' || c = '[' || c = ']'
    || (0x80 ≤ c.toNat && ((Unicode.category? "n").any fun s => s.contains c))

/-- The name of a group up to the closing angle bracket, which is passed. -/
def groupName (start : Position) : Nat → List Char → Reader (List Char × Span)
  | 0, _, cur => refuse .groupNameUnexpectedEnd cur.here
  | fuel + 1, name, cur =>
      match cur.char? with
      | none => refuse .groupNameUnexpectedEnd cur.here
      | some '>' =>
          if name.isEmpty then refuse .groupNameEmpty ⟨start, start⟩
          else .ok ((name.reverse, cur.since start), cur.bump)
      | some c =>
          if (if name.isEmpty then opensName c else continuesName c) then
            groupName start fuel (c :: name) cur.bump
          else refuse .groupNameInvalid cur.charSpan

/-- The item that an item repeats, if any. -/
def repeated? (items : List FlagItem) (item : FlagItem) : Option FlagItem :=
  items.find? fun i => i.flag = item.flag

/-- Flags up to a colon or a closing parenthesis, which is left. -/
def flagItems : Nat → List FlagItem → Reader (List FlagItem)
  | 0, _, cur => refuse .flagUnexpectedEnd cur.here
  | fuel + 1, items, cur => do
      match cur.char? with
      | none => refuse .flagUnexpectedEnd cur.here
      | some c =>
          if c = ':' || c = ')' then
            match items.getLast? with
            | some ⟨span, none⟩ => refuse .flagDanglingNegation span
            | _ => return (items, cur)
          else
            let span := cur.charSpan
            let item ←
              if c = '-' then pure ⟨span, none⟩
              else
                match Flag.ofChar? c with
                | some flag => pure ⟨span, some flag⟩
                | none => refuse .flagUnrecognized span
            match repeated? items item with
            | some earlier =>
                let cause : Cause := if c = '-' then .flagRepeatedNegation else .flagDuplicate
                .error ⟨cause, span, some earlier.span⟩
            | none => flagItems fuel (items ++ [item]) cur.bump

/-- What a parenthesis opens: flags for the rest of the group around it, or a
group. -/
inductive Opening where
  | flags (items : List FlagItem)
  | group (kind : GroupKind) (name : Option (List Char × Span))

/-- The opening of a group, from the parenthesis on. -/
def groupOpening : Reader Opening := fun cur => do
  let opening := cur.charSpan
  let inside := cur.bump.skip
  match ["?=", "?!", "?<=", "?<!"].findSome? fun mark => inside.bumpIf? mark with
  | some past => refuse .unsupportedLookAround (past.since opening.start)
  | none =>
      match (inside.bumpIf? "?P<").or (inside.bumpIf? "?<") with
      | some past =>
          let (name, past) ← groupName past.position (past.rest.length + 1) [] past
          return (.group .capturing (some name), past)
      | none =>
          match inside.bumpIf? "?" with
          | none => return (.group .capturing none, inside)
          | some past =>
              if past.atEnd then refuse .groupUnclosed opening
              let (items, past) ← flagItems (past.rest.length + 1) [] past
              if past.char? = some ':' then return (.group (.plain items) none, past.bump)
              if items.isEmpty then refuse .repetitionMissing inside.here
              return (.flags items, past.bump)

/-- A parenthesis opens a group or sets flags. -/
def openGroup (b : Build) : Reader Build := fun cur => do
  let opening := cur.charSpan
  match ← groupOpening cur with
  | (.flags items, past) =>
      let verbose := (Flag.verbose.setting? items).getD past.verbose
      let part := Syntax.flags (past.since opening.start) items
      return ({ b with level := b.level.push part }, { past with verbose := verbose })
  | (.group kind name, past) =>
      let verbose :=
        match kind with
        | .plain items => (Flag.verbose.setting? items).getD cur.verbose
        | .capturing => cur.verbose
      let names ←
        match name with
        | none => pure b.names
        | some (name, span) =>
            match b.names.find? fun n => n.1 = name with
            | some earlier => .error ⟨.groupNameDuplicate, span, some earlier.2⟩
            | none => pure ((name, span) :: b.names)
      return (⟨.opening past.position, ⟨opening, kind, b.level, cur.verbose⟩ :: b.groups, names⟩,
        { past with verbose := verbose })

/-- A parenthesis closes the innermost group. -/
def closeGroup (b : Build) : Reader Build := fun cur =>
  match b.groups with
  | [] => refuse .groupUnopened cur.charSpan
  | g :: groups =>
      let past := { cur.bump with verbose := g.verbose }
      let part := Syntax.group (past.since g.opening.start) g.kind (b.level.close cur.position)
      .ok ({ b with level := g.outside.push part, groups := groups }, past)

/-- The latest part, which is to be repeated, and what stands before it. -/
def Level.last (l : Level) (place : Span) : Except Fault (Syntax × Level) :=
  match l.parts with
  | [] => refuse .repetitionMissing place
  | .empty _ :: _ => refuse .repetitionMissing place
  | .flags _ _ :: _ => refuse .repetitionMissing place
  | part :: parts => .ok (part, { l with parts := parts })

/-- Repeat the latest part; a question mark behind the sign asks for the fewest
repetitions first, which makes no difference to whether a text matches. -/
def repeatLast (b : Build) (quantity : Quantity) : Reader Build := fun cur => do
  let (body, level) ← b.level.last cur.here
  let past := cur.bump
  let past := if past.char? = some '?' then past.bump else past
  let part := Syntax.repetition ⟨body.span.start, past.position⟩ quantity body
  return ({ b with level := level.push part }, past)

/-- The quantity in braces, from the opening brace on; the cursor is left at
the closing brace. -/
def bracedQuantity : Reader Quantity := fun cur => do
  let start := cur.position
  let unclosed {α : Type} (cur : Cursor) : Except Fault α :=
    refuse .repetitionCountUnclosed (cur.since start)
  let inside := cur.advance
  if inside.atEnd then unclosed inside
  let (least, cur) ← count inside
  if cur.atEnd then unclosed cur
  let (quantity, cur) ←
    if cur.char? = some ',' then do
      let inside := cur.advance
      if inside.atEnd then unclosed inside
      if inside.char? = some '}' then
        let least ← least
        pure ((⟨least, none⟩ : Quantity), inside)
      else
        let least ← least
        let (most, cur) ← count inside
        let most ← most
        pure ((⟨least, some most⟩ : Quantity), cur)
    else do
      let least ← least
      pure ((⟨least, some least⟩ : Quantity), cur)
  if cur.char? != some '}' then unclosed cur
  return (quantity, cur)

/-- Repeat the latest part as often as the braces say. -/
def repeatCounted (b : Build) : Reader Build := fun cur => do
  let start := cur.position
  let (body, level) ← b.level.last cur.here
  let (quantity, cur) ← bracedQuantity cur
  let past := cur.advance
  let past := if past.char? = some '?' then past.bump else past
  if quantity.most.any (· < quantity.least) then
    refuse .repetitionCountInvalid (past.since start)
  let part := Syntax.repetition ⟨body.span.start, past.position⟩ quantity body
  return ({ b with level := level.push part }, past)

/-- A unit that is none of the signs for groups, branches and repetitions. -/
def primitive : Reader Primitive := fun cur =>
  match cur.char? with
  | some '\\' => escape cur
  | some '.' => .ok (.dot cur.charSpan, cur.bump)
  | some '^' => .ok (.assertion cur.charSpan .lineStart, cur.bump)
  | some '$' => .ok (.assertion cur.charSpan .lineEnd, cur.bump)
  | some c => .ok (.literal ⟨cur.charSpan, c, false⟩, cur.bump)
  | none => refuse .escapeUnexpectedEnd cur.here

/-- Read one sign or unit, the next character being given. -/
def step (b : Build) (c : Char) : Reader Build := fun cur => do
  match c with
  | '(' => openGroup b cur
  | ')' => closeGroup b cur
  | '|' =>
      let past := cur.bump
      return ({ b with level := b.level.alternate cur.position past.position }, past)
  | '[' =>
      let (part, past) ← bracketed cur
      return ({ b with level := b.level.push part }, past)
  | '?' => repeatLast b ⟨0, some 1⟩ cur
  | '*' => repeatLast b ⟨0, none⟩ cur
  | '+' => repeatLast b ⟨1, none⟩ cur
  | '{' => repeatCounted b cur
  | _ =>
      let (unit, past) ← primitive cur
      return ({ b with level := b.level.push unit.toSyntax }, past)

/-- The whole pattern, once everything has been read. -/
def finish (b : Build) (stop : Position) : Except Fault Syntax :=
  match b.groups with
  | [] => .ok (b.level.close stop)
  | g :: _ => refuse .groupUnclosed g.opening

/-- Read to the end.  Every step passes a character, so that as many steps as
there are characters are enough. -/
def readAll : Nat → Build → Cursor → Except Fault Syntax
  | 0, b, cur => finish b cur.skip.position
  | fuel + 1, b, cur =>
      let cur := cur.skip
      match cur.char? with
      | none => finish b cur.position
      | some c => do
          let (b, past) ← step b c cur
          readAll fuel b past

mutual

/-- Refuse classes in which some are nested too deep. -/
def ClassSyntax.checkDepth (limit depth : Nat) : ClassSyntax → Except Fault Unit
  | .bracketed span _ body =>
      if limit ≤ depth then refuse (.nestingTooDeep limit) span
      else body.checkDepth limit (depth + 1)
  | .union span items =>
      if limit ≤ depth then refuse (.nestingTooDeep limit) span
      else checkItems limit (depth + 1) items
  | .binary span _ left right =>
      if limit ≤ depth then refuse (.nestingTooDeep limit) span
      else do
        left.checkDepth limit (depth + 1)
        right.checkDepth limit (depth + 1)
  | _ => .ok ()

/-- `ClassSyntax.checkDepth` on every item. -/
def checkItems (limit depth : Nat) : List ClassSyntax → Except Fault Unit
  | [] => .ok ()
  | item :: rest => do
      item.checkDepth limit depth
      checkItems limit depth rest

end

mutual

/-- Refuse patterns in which parts are nested too deep. -/
def Syntax.checkDepth (limit depth : Nat) : Syntax → Except Fault Unit
  | .bracketed span _ body =>
      if limit ≤ depth then refuse (.nestingTooDeep limit) span
      else body.checkDepth limit (depth + 1)
  | .repetition span _ body =>
      if limit ≤ depth then refuse (.nestingTooDeep limit) span
      else body.checkDepth limit (depth + 1)
  | .group span _ body =>
      if limit ≤ depth then refuse (.nestingTooDeep limit) span
      else body.checkDepth limit (depth + 1)
  | .alternation span branches =>
      if limit ≤ depth then refuse (.nestingTooDeep limit) span
      else checkParts limit (depth + 1) branches
  | .sequence span parts =>
      if limit ≤ depth then refuse (.nestingTooDeep limit) span
      else checkParts limit (depth + 1) parts
  | _ => .ok ()

/-- `Syntax.checkDepth` on every part. -/
def checkParts (limit depth : Nat) : List Syntax → Except Fault Unit
  | [] => .ok ()
  | part :: rest => do
      part.checkDepth limit depth
      checkParts limit depth rest

end

/-- How deep parts may be nested. -/
def depthLimit : Nat := 250

/-- Read a pattern. -/
def Syntax.parse (pattern : List Char) : Except Fault Syntax := do
  let build : Build := ⟨.opening .start, [], []⟩
  let tree ← readAll (pattern.length + 1) build (.ofChars pattern)
  tree.checkDepth depthLimit 0
  return tree

end BookCensus.Pattern
