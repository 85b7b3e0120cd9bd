/-
# Targets of requests

A target is a path and a query.  The parts of the path stay as they are until they have found their
route; then their percent-encoding is undone, and what comes out has to be a text.  A query is a
list of fields; a plus sign in it is a space, and octets that are no text are replaced.
-/
import Placard.Location
import Placard.Text.Octets

namespace Placard

/-- What a request asks for. -/
structure Target where
  /-- The parts of the path after its first slash, still encoded. -/
  parts : List String
  /-- The fields of the query, in order. -/
  query : List (String × String)

namespace Target

/-- A part of a path with its encoding undone, if it is a text. -/
def decodePart? (part : String) : Option String :=
  String.fromUTF8? ⟨(Location.percentDecode part.toList).toArray⟩

/-- A name or a value of a query with its encoding undone. -/
def decodeField (cs : List Char) : String :=
  Text.ofOctets (Location.percentDecode (cs.map fun c => if c == '+' then ' ' else c))

def field (cs : List Char) : String × String :=
  (decodeField (cs.takeWhile (· != '=')), decodeField ((cs.dropWhile (· != '=')).drop 1))

def fields (cs : List Char) : List (String × String) :=
  ((Text.splitList (· == '&') cs).filter (! ·.isEmpty)).map field

def ofText (s : String) : Target :=
  let (path, query) := Location.cutQuery s.toList
  { parts := ((Text.splitList (· == '/') path).drop 1).map String.ofList
    query := (query.map fields).getD [] }

end Target

/-- The fields of a query that a route knows: the value of each of them, empty if it is not
there. -/
structure Query where
  fields : List (String × String)

namespace Query

/-- The known fields of a query, unless one of them is repeated. -/
def known? (names : List String) (fields : List (String × String)) : Option Query :=
  let mine := fields.filter (·.1 ∈ names)
  if (mine.map (·.1)).Nodup then some ⟨mine⟩ else none

def get (q : Query) (name : String) : String := (q.fields.lookup name).getD ""

end Query
end Placard
