import BookCensus.Pattern.Interpret
import BookCensus.Pattern.Size

/-!
# Looking for a pattern in a text

The places of a text are numbered from zero, and a set of places is a number
whose binary digits say which places are in it.  An expression moves a set of
places: from the places where it may begin to those where it may end.  All
beginnings are moved at once, so that it makes no difference in how many ways
a pattern fits.
-/

namespace BookCensus.Pattern

/-- A set of places. -/
abbrev Places := Nat

namespace Places

/-- The places whose conditions hold. -/
def ofBools : List Bool → Places
  | [] => 0
  | b :: rest => 2 * ofBools rest + b.toNat

/-- The places of a text of some length. -/
def upTo (length : Nat) : Places :=
  Nat.pow 2 (length + 1) - 1

end Places

namespace Look

/-- The word characters that a condition speaks of. -/
def wordChars : Look → CharSet
  | .wordBoundary u | .noWordBoundary u | .wordStart u | .wordEnd u | .wordStartHalf u
  | .wordEndHalf u => Shorthand.word.chars u
  | _ => .empty

/-- Whether a condition holds between two characters, the word characters being
given; there is no character before the beginning and none behind the end. -/
def holds (word : CharSet) (before after : Option Char) : Look → Bool
  | .textStart => before.isNone
  | .textEnd => after.isNone
  | .lineStart cr =>
      before.isNone || before = some '\n' || (cr && before = some '\r' && after != some '\n')
  | .lineEnd cr =>
      after.isNone || (cr && after = some '\r')
        || (after = some '\n' && !(cr && before = some '\r'))
  | .wordBoundary _ => before.any word.contains != after.any word.contains
  | .noWordBoundary _ => before.any word.contains == after.any word.contains
  | .wordStart _ => !before.any word.contains && after.any word.contains
  | .wordEnd _ => before.any word.contains && !after.any word.contains
  | .wordStartHalf _ => !before.any word.contains
  | .wordEndHalf _ => !after.any word.contains

/-- Where a condition holds, from the place behind a given character on. -/
def placesFrom (condition : Look) (word : CharSet) (before : Option Char) :
    List Char → List Bool
  | [] => [condition.holds word before none]
  | c :: rest =>
      condition.holds word before (some c) :: condition.placesFrom word (some c) rest

end Look

/-- An expression over one text, its sets and conditions replaced by the places
where they hold. -/
inductive Route where
  | stay (places : Places)
  | step (places : Places)
  | seq (first second : Route)
  | alt (first second : Route)
  | loop (least : Nat) (most : Option Nat) (body : Route)

/-- The route of an expression over a text. -/
def Expr.route (text : List Char) : Expr → Route
  | .nothing => .stay (Places.upTo text.length)
  | .char set => .step (Places.ofBools (text.map set.contains))
  | .look condition =>
      .stay (Places.ofBools (condition.placesFrom condition.wordChars none text))
  | .capture body => body.route text
  | .seq first second => .seq (first.route text) (second.route text)
  | .alt first second => .alt (first.route text) (second.route text)
  | .loop least most body => .loop least most (body.route text)

/-- Move a set of places a number of times. -/
def moveTimes (move : Places → Places) : Nat → Places → Places
  | 0, places => places
  | n + 1, places => if places = 0 then 0 else moveTimes move n (move places)

/-- Move the latest places up to a number of times and gather all that are
reached, stopping when none is new. -/
def gather (move : Places → Places) : Nat → Places → Places → Places
  | 0, _, reached => reached
  | n + 1, latest, reached =>
      let next := move latest
      let all := reached ||| next
      if all = reached then reached else gather move n next all

/-- The places where a route over a text of some length may end.  After one
more repetition than there are characters, further ones reach the same. -/
def Route.move (length : Nat) : Route → Places → Places
  | .stay here, places => places &&& here
  | .step here, places => (places &&& here) <<< 1
  | .seq first second, places => second.move length (first.move length places)
  | .alt first second, places => first.move length places ||| second.move length places
  | .loop least most body, places =>
      let start := moveTimes (body.move length) (min least (length + 1)) places
      let more := (most.map (· - least)).getD (length + 1)
      gather (body.move length) (min more (length + 1)) start start

/-- Whether a text has a stretch that an expression describes. -/
def Expr.occursIn (e : Expr) (text : List Char) : Bool :=
  (e.route text).move text.length (Places.upTo text.length) != 0

end BookCensus.Pattern
