import BookCensus.Files.System

/-!
# Why a book cannot be had
-/

namespace BookCensus

/-- Why the source of a book cannot be loaded. -/
inductive RetrievalError where
  | notFound (id : String)
  | outsideRoot (id root : String)
  | tooLarge (id : String) (size limit : Nat)
  | unreadable (path : String) (fault : FileFault)
  deriving DecidableEq, Repr

/-- The wording of an error. -/
def RetrievalError.message : RetrievalError → String
  | .notFound id => "book source not found: " ++ id
  | .outsideRoot id root =>
      "book source " ++ id ++ " resolves outside the books root " ++ root
  | .tooLarge id size limit =>
      "book source " ++ id ++ " is " ++ Nat.repr size ++ " bytes, limit is " ++ Nat.repr limit
  | .unreadable path fault => "I/O error reading " ++ path ++ ": " ++ fault.message

end BookCensus
