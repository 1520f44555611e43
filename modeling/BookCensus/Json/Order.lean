import BookCensus.Json.Value

/-!
# Objects in order

Members in ascending order of their names, each name once.
-/

namespace BookCensus.Json

/-- Put a member where it belongs among members in order; one of the same name
gives way. -/
def insertMember (name : String) (value : Json) : List (String × Json) → List (String × Json)
  | [] => [(name, value)]
  | m :: rest =>
      if name < m.1 then (name, value) :: m :: rest
      else if name = m.1 then (name, value) :: rest
      else m :: insertMember name value rest

/-- Members brought into order; of several with one name the last counts. -/
def sortMembers (members : List (String × Json)) : List (String × Json) :=
  members.foldl (fun done m => insertMember m.1 m.2 done) []

mutual

/-- A value with the members of all its objects in order. -/
def sorted : Json → Json
  | .array items => .array (sortedItems items)
  | .object members => .object (sortMembers (sortedMembers members))
  | v => v

/-- `sorted` on every item. -/
def sortedItems : List Json → List Json
  | [] => []
  | v :: rest => sorted v :: sortedItems rest

/-- `sorted` on the value of every member. -/
def sortedMembers : List (String × Json) → List (String × Json)
  | [] => []
  | (name, v) :: rest => (name, sorted v) :: sortedMembers rest

end

end BookCensus.Json
