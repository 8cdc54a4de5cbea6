import LSystem.Text.Basic

/-! # JSON values

Objects keep their entries in order. Integers and floats are told apart by how they are written. -/

namespace LSystem

inductive Json where
  | null
  | bool (b : Bool)
  | int (i : Int)
  | float (x : Float)
  | text (s : Text)
  | array (items : List Json)
  | object (entries : List (Text × Json))

namespace Json

/-- The value under a key of an object's entries. -/
def field? (key : Text) (entries : List (Text × Json)) : Option Json :=
  (entries.find? fun (k, _) => k = key).map (·.2)

/-- Entries with one more. A key that is there already keeps its place and gets the new value. -/
def putEntry (key : Text) (value : Json) (entries : List (Text × Json)) : List (Text × Json) :=
  if entries.any fun (k, _) => k = key then
    entries.map fun (k, v) => if k = key then (k, value) else (k, v)
  else entries ++ [(key, value)]

end Json

end LSystem
