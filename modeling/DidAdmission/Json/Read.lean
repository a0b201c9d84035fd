-- SUMMARY: Reading a JSON value from a text.
import DidAdmission.Json.Grammar
import DidAdmission.Json.Value

/-!
# Reading values

`Json.read` reads a whole text. Arrays and objects nest to a depth of `maxDepth`; of two members with
one key the later one stays.
-/

namespace DidAdmission.Json

/-- How many arrays and objects may be open at once. -/
def maxDepth : Nat := 127

/-- Reads the items of an array whose bracket is open. -/
def readArray (item : Reader Json) : Reader Json := fun s => do
  let (items, rest) ←
    foldItems id (fun items s => (item s).map fun (v, rest) => (v :: items, rest))
      (s.length + 1) true [] s
  .ok (.array items.reverse, rest)

/-- Reads one member, given its key, onto those before it. -/
def readMember (value : Reader Json) (members : List (String × Json)) (key : String)
    (s : List Char) : Except Fault (List (String × Json) × List Char) := do
  let s ← skipColon s
  let (v, rest) ← value s
  .ok ((key, v) :: members, rest)

/-- Reads the members of an object whose brace is open. -/
def readObject (value : Reader Json) : Reader Json := fun s => do
  let (members, rest) ← foldMembers id (readMember value) (s.length + 1) true [] s
  .ok (.object (Object.ofMembers members.reverse), rest)

/-- Reads a value whose items and members are read by `nested`, if any may be open. -/
def readValueWith (nested : Option (Reader Json)) : Reader Json := fun s =>
  match skipSpace s with
  | [] => .error .endInValue
  | c :: rest =>
    if c = 'n' then (skipWord ['u', 'l', 'l'] rest).map fun rest => (.null, rest)
    else if c = 't' then (skipWord ['r', 'u', 'e'] rest).map fun rest => (.boolean true, rest)
    else if c = 'f' then
      (skipWord ['a', 'l', 's', 'e'] rest).map fun rest => (.boolean false, rest)
    else if c = '-' then (readNumber true rest).map fun (n, rest) => (.number n, rest)
    else if c.isDigit then (readNumber false (c :: rest)).map fun (n, rest) => (.number n, rest)
    else if c = '"' then (readString rest).map fun (t, rest) => (.text t, rest)
    else if c = '[' then
      match nested with
      | none => .error .tooDeep
      | some item => readArray item rest
    else if c = '{' then
      match nested with
      | none => .error .tooDeep
      | some value => readObject value rest
    else .error .expectedValue

/-- Reads a value in which at most `depth` arrays and objects are open at once. -/
def readValue : (depth : Nat) → Reader Json
  | 0 => readValueWith none
  | depth + 1 => readValueWith (some (readValue depth))

def read (s : String) : Except Fault Json := do
  let (value, rest) ← readValue maxDepth s.toList
  endOfText rest
  .ok value

end DidAdmission.Json
