/-!
# Blank characters and words

A blank is a character with the Unicode property White_Space.  A text is read
as the sequence of its *words*, the maximal runs of characters that are not
blank; `collapse` writes that sequence back with one space between
neighbours, which is the form in which texts are compared and titles shown.

`words` reads a text once from left to right, holding the word under way and
the words that are finished, both in reverse.
-/

namespace BookCensus.Text

/-- The twenty-five characters with the property White_Space. -/
def isBlank (c : Char) : Bool :=
  let n := c.toNat
  (0x09 ≤ n && n ≤ 0x0d) || n == 0x20 || n == 0x85 || n == 0xa0 || n == 0x1680
    || (0x2000 ≤ n && n ≤ 0x200a) || n == 0x2028 || n == 0x2029 || n == 0x202f
    || n == 0x205f || n == 0x3000

/-- Put the word under way, if there is one, in front of the finished words. -/
def finishWord (word : List Char) (done : List (List Char)) : List (List Char) :=
  if word.isEmpty then done else word.reverse :: done

/-- Read the rest of a text, holding the word under way reversed and the
finished words with the latest first. -/
def wordsFrom : List Char → List Char → List (List Char) → List (List Char)
  | [], word, done => (finishWord word done).reverse
  | c :: rest, word, done =>
      if isBlank c then wordsFrom rest [] (finishWord word done)
      else wordsFrom rest (c :: word) done

/-- The maximal runs of characters that are not blank, in order. -/
def words (text : List Char) : List (List Char) :=
  wordsFrom text [] []

/-- Words written one after the other with a single space between neighbours. -/
def joinWords (ws : List (List Char)) : List Char :=
  [' '].intercalate ws

/-- A text with every run of blanks made one space and none at the ends. -/
def collapseChars (text : List Char) : List Char :=
  joinWords (words text)

/-- `collapseChars` on strings. -/
def collapse (text : String) : String :=
  String.ofList (collapseChars text.toList)

/-- Drop the blanks at the end of a text. -/
def dropBlankEnd (text : List Char) : List Char :=
  (text.reverse.dropWhile isBlank).reverse

/-- Drop the blanks at both ends of a text. -/
def trimBlank (text : List Char) : List Char :=
  dropBlankEnd (text.dropWhile isBlank)

/-- `trimBlank` on strings. -/
def trim (text : String) : String :=
  String.ofList (trimBlank text.toList)

/-- Nothing but blanks. -/
def isBlankText (text : String) : Bool :=
  text.toList.all isBlank

end BookCensus.Text
