/-!
# What is said of a text that cannot be read

Which texts are selector lists is settled by reading them.  What is said of any other text is
settled by the engine that reads them: it looks at nothing but the text, and what it says is
handed on with the refusal, and never looked into.  So the words are left open here, and
whatever is proved of selectors is proved for all words.
-/

namespace BookCensus.Css

/-- What the engine says of each text that it does not read as a selector list. -/
class Wording where
  complaint : List Char → String

/-- What is said of a text that ends too early, such as `div[`.  Where selectors are only tried
out it stands for all that can be said of them; it shows in no output. -/
instance Wording.endsEarly : Wording :=
  ⟨fun _ => "Unexpected EOL"⟩

end BookCensus.Css
