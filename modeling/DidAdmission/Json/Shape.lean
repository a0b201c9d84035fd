-- SUMMARY: Reading texts, switches and names straight from JSON, or naming what stands there instead.
import DidAdmission.Json.Read
import DidAdmission.Json.Skim

/-!
# Values of a known shape

A value of an expected type is read from a text by one of these readers. Where another type stands,
the mismatch names it: a scalar is read first, so that its own faults win, an array or an object is
named from its bracket.
-/

namespace DidAdmission.Json

/-- A reader of a value of an expected shape. -/
abbrev ShapeReader (α : Type) := List Char → Except Mismatch (α × List Char)

/-- A reader of a value whose faults count as mismatches. -/
def Reader.shape {α : Type} (r : Reader α) : ShapeReader α := fun s =>
  (r s).mapError .malformed

/-- The mismatch at a value of the wrong type. -/
def mismatchAt (expected : String) (s : List Char) : Mismatch :=
  match s with
  | '[' :: _ => .mistyped .sequence expected
  | '{' :: _ => .mistyped .map expected
  | _ =>
    match readValue 0 s with
    | .ok (value, _) => .mistyped value.found expected
    | .error fault => .malformed fault

/-- Dispatches on the first character of a value; a text that ends here has none. -/
def atValue {α : Type} (s : List Char) (k : Char → List Char → Except Mismatch α) :
    Except Mismatch α :=
  match skipSpace s with
  | [] => .error (.malformed .endInValue)
  | c :: rest => k c rest

def textShape (expected : String) : ShapeReader String := fun s =>
  atValue s fun c rest =>
    if c = '"' then Reader.shape readString rest else .error (mismatchAt expected (c :: rest))

/-- Reads a text, or nothing where null stands. -/
def optionalTextShape (expected : String) : ShapeReader (Option String) := fun s =>
  match skipSpace s with
  | 'n' :: rest =>
    ((skipWord ['u', 'l', 'l'] rest).mapError .malformed).map fun rest => (none, rest)
  | _ => (textShape expected s).map fun (t, rest) => (some t, rest)

def booleanShape : ShapeReader Bool := fun s =>
  atValue s fun c rest =>
    if c = 't' then
      ((skipWord ['r', 'u', 'e'] rest).mapError .malformed).map fun rest => (true, rest)
    else if c = 'f' then
      ((skipWord ['a', 'l', 's', 'e'] rest).mapError .malformed).map fun rest => (false, rest)
    else .error (mismatchAt "a boolean" (c :: rest))

def unitShape : ShapeReader Unit := fun s =>
  atValue s fun c rest =>
    if c = 'n' then
      ((skipWord ['u', 'l', 'l'] rest).mapError .malformed).map fun rest => ((), rest)
    else .error (mismatchAt "unit" (c :: rest))

/-- The value that a name stands for. -/
def variantOf {α : Type} (known : List (String × α)) (name : String) : Except Mismatch α :=
  match known.lookup name with
  | some value => .ok value
  | none => .error (.unknownVariant name (known.map (·.1)))

/-- Reads the key of an object that must have one. An object without a key lacks a value. -/
def soleKey : Reader String := fun s =>
  match skipSpace s with
  | [] => .error .endInObject
  | '"' :: rest => readString rest
  | '}' :: _ => .error .expectedValue
  | _ => .error .keyNotString

/-- Reads one of the known names, alone or as the only key of an object over null. -/
def variantShape {α : Type} (known : List (String × α)) : ShapeReader α := fun s =>
  atValue s fun c rest =>
    if c = '"' then do
      let (name, rest) ← Reader.shape readString rest
      .ok (← variantOf known name, rest)
    else if c = '{' then do
      let (name, rest) ← soleKey.shape rest
      let value ← variantOf known name
      let rest ← (skipColon rest).mapError .malformed
      let ((), rest) ← unitShape rest
      match skipSpace rest with
      | [] => .error (.malformed .endInObject)
      | '}' :: rest => .ok (value, rest)
      | _ => .error (.malformed .expectedValue)
    else .error (.malformed .expectedValue)

def listShape {α : Type} (item : ShapeReader α) : ShapeReader (List α) := fun s =>
  atValue s fun c rest =>
    if c = '[' then do
      let (items, rest) ←
        foldItems .malformed (fun items s => (item s).map fun (v, rest) => (v :: items, rest))
          (rest.length + 1) true [] rest
      .ok (items.reverse, rest)
    else .error (mismatchAt "a sequence" (c :: rest))

def skimShape (s : List Char) : Except Mismatch (List Char) :=
  (skim s).mapError .malformed

end DidAdmission.Json
