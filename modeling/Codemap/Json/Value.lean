import Codemap.Number.Shortest

namespace Codemap

/-!
# JSON values

A JSON value keeps integers apart from other numbers, because a modification
time is exact only as an integer, and keeps the members of an object in the
order in which they were written.  A repeated name keeps its first position and
its last value, so an object never holds a name twice.
-/

/-- A JSON value. -/
inductive Json where
  | null
  | bool (value : Bool)
  | int (value : Int)
  | float (value : Binary64)
  | str (value : Text)
  | arr (items : List Json)
  | obj (members : List (Text × Json))
deriving Repr, Inhabited

namespace Json

/-- Give a name a value: in place if the name is there, at the end otherwise. -/
def put (members : List (Text × Json)) (name : Text) (value : Json) : List (Text × Json) :=
  match members with
  | [] => [(name, value)]
  | (other, old) :: rest =>
      if other = name then (other, value) :: rest else (other, old) :: put rest name value

/-- The value of a name in a list of members. -/
def look? (members : List (Text × Json)) (name : Text) : Option Json :=
  match members with
  | [] => none
  | (other, value) :: rest => if other = name then some value else look? rest name

/-- The value of a name; nothing if the value is no object or lacks the name. -/
def get? (value : Json) (name : Text) : Option Json :=
  match value with
  | .obj members => look? members name
  | _ => none

/-- A JSON value that is an integer, or a number whose value is one, or a truth
value counted as zero or one, has this integer value. -/
def hasIntegerValue (value : Json) (n : Int) : Bool :=
  match value with
  | .int m => m == n
  | .bool b => (if b then 1 else 0) == n
  | .float x => x.equalsInt n
  | _ => false

end Json
end Codemap
