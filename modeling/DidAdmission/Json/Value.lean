-- SUMMARY: JSON values, and objects as lists of members in ascending order of their keys.
import DidAdmission.Json.Fault

/-!
# JSON values

The members of an object stand in ascending order of their keys and no key occurs twice:
`Object.insert` keeps this, and of two members with one key the later one stays.
-/

namespace DidAdmission

/-- A JSON value. -/
inductive Json
  | null
  | boolean (value : Bool)
  | number (value : Json.Number)
  | text (value : String)
  | array (items : List Json)
  | object (members : List (String × Json))
deriving Inhabited, Repr

namespace Json

/-- The members of an object, in ascending order of their keys. -/
abbrev Object := List (String × Json)

/-- Sets the member `key`. -/
def Object.insert (key : String) (value : Json) : Object → Object
  | [] => [(key, value)]
  | (k, v) :: members =>
    if key < k then (key, value) :: (k, v) :: members
    else if key = k then (key, value) :: members
    else (k, v) :: Object.insert key value members

/-- The object with the given members, the later one where two have the same key. -/
def Object.ofMembers (members : List (String × Json)) : Object :=
  members.foldl (fun object m => object.insert m.1 m.2) []

/-- The value of the member `key`. -/
def Object.get? (object : Object) (key : String) : Option Json :=
  List.lookup key object

def Object.keys (object : Object) : List String :=
  object.map (·.1)

/-- What a value is, for a message. -/
def found : Json → Found
  | .null => .null
  | .boolean b => .boolean b
  | .number n => .number n
  | .text s => .text s
  | .array _ => .sequence
  | .object _ => .map

/-- The text of a value that is one. -/
def text? : Json → Option String
  | .text s => some s
  | _ => none

/-- The members of a value that is an object. -/
def object? : Json → Option Object
  | .object members => some members
  | _ => none

def isNull : Json → Bool
  | .null => true
  | _ => false

@[simp] theorem isNull_null : isNull .null = true := rfl

@[simp] theorem text?_text (s : String) : text? (.text s) = some s := rfl

@[simp] theorem object?_object (members : Object) : object? (.object members) = some members := rfl

end Json

end DidAdmission
