-- SUMMARY: Settings: values from a file or from the environment, laid over one another by key.
import DidAdmission.Json.Read

/-!
# Settings

A setting is a plain value, a list or a table. Of a number it only counts whether it is zero. A key may
lead into a table or a list (`a.b`, `a[0]`); what stands in the way of such a key is replaced. A table laid
over a table is merged into it, and any other value takes the place of what was there. A key that leads to
an item before the start of a list (`a[-1]` where there is no item) cannot be laid.
-/

namespace DidAdmission

/-- A setting. -/
inductive Setting
  | null
  | boolean (value : Bool)
  | number (isZero : Bool)
  | text (value : String)
  | list (items : List Setting)
  | table (entries : List (String × Setting))
deriving Inhabited, Repr

namespace Setting

/-! ## Values of a file -/

def isZero : Json.Number → Bool
  | .integer i => i == 0
  | .real x => x.magnitude.isZero

mutual

/-- The setting that a JSON value gives. -/
def ofJson : Json → Setting
  | .null => .null
  | .boolean b => .boolean b
  | .number n => .number (isZero n)
  | .text s => .text s
  | .array items => .list (ofItems items)
  | .object members => .table (ofMembers members)

/-- The settings that the items of an array give. -/
def ofItems : List Json → List Setting
  | [] => []
  | item :: items => ofJson item :: ofItems items

/-- The settings that the members of an object give. -/
def ofMembers : List (String × Json) → List (String × Setting)
  | [] => []
  | (key, value) :: members => (key, ofJson value) :: ofMembers members

end

/-! ## Values of a variable -/

/-- A letter in lower case. Of the letters beyond ASCII only the Kelvin sign has an ASCII form. -/
def lowerChar (c : Char) : Char :=
  if c = '\u212A' then 'k' else c.toLower

def lower (s : List Char) : List Char :=
  s.map lowerChar

def unsigned (s : List Char) : List Char :=
  match s with
  | '+' :: rest => rest
  | '-' :: rest => rest
  | _ => s

/-- The power of ten at the end of a number, none if something else stands there. -/
def exponent? (s : List Char) : Option Int :=
  match s with
  | [] => some 0
  | mark :: rest =>
    let digits := unsigned rest
    if (mark = 'e' ∨ mark = 'E') ∧ ¬ digits.isEmpty ∧ digits.all Char.isDigit then
      let n : Int := Digits.toNat 10 (digits.map Json.digitValue)
      some (if rest.head? = some '-' then -n else n)
    else none

/-- Is the number `digits * 10 ^ exponent` zero, or nearer to zero than to the least number above it? -/
def vanishes (digits : Nat) (exponent : Int) : Bool :=
  if digits = 0 then true
  else if 0 ≤ exponent then false
  else if 400 + (digits.log2 : Int) < -exponent then true
  else (Magnitude.round digits (Nat.pow 10 (-exponent).toNat)).any Magnitude.isZero

/-- Whether the number that a text writes in decimal is zero, if it writes one. -/
def decimalIsZero? (s : List Char) : Option Bool :=
  let whole := s.takeWhile Char.isDigit
  let afterWhole := s.dropWhile Char.isDigit
  let (fraction, rest) :=
    match afterWhole with
    | '.' :: rest => (rest.takeWhile Char.isDigit, rest.dropWhile Char.isDigit)
    | _ => ([], afterWhole)
  if whole.isEmpty ∧ fraction.isEmpty then none
  else (exponent? rest).map fun e =>
    vanishes (Digits.toNat 10 ((whole ++ fraction).map Json.digitValue)) (e - fraction.length)

/-- Whether the number that a text writes is zero, if it writes one. -/
def numberIsZero? (s : List Char) : Option Bool :=
  let s := unsigned s
  if ["inf", "infinity", "nan"].contains (String.ofList (lower s)) then some false
  else decimalIsZero? s

/-- The setting that the text of a variable gives. -/
def ofVariable (value : String) : Setting :=
  if lower value.toList = "true".toList then .boolean true
  else if lower value.toList = "false".toList then .boolean false
  else match numberIsZero? value.toList with
    | some isZero => .number isZero
    | none => .text value

/-! ## Keys -/

/-- One step of a key. -/
inductive Step
  | entry (name : String)
  | item (index : Int)
deriving DecidableEq, Repr

/-- May the character stand in a name that is part of a key? -/
def isNameChar (c : Char) : Bool :=
  c.isAlphanum || c == ' ' || c == '_' || c == '-'

/-- The index between brackets, which must fit into 64 bits, and what follows them. -/
def index? (s : List Char) : Option (Int × List Char) :=
  let blank (c : Char) : Bool := c == ' ' || c == '\t'
  let s := s.dropWhile blank
  let negative := s.head? == some '-'
  let s := if negative then s.drop 1 else s
  let digits := s.takeWhile Char.isDigit
  let n : Int := Digits.toNat 10 (digits.map Json.digitValue)
  let index := if negative then -n else n
  match (s.dropWhile Char.isDigit).dropWhile blank with
  | ']' :: rest =>
    if digits.isEmpty ∨ index < -Nat.pow 2 63 ∨ Nat.pow 2 63 ≤ index then none else some (index, rest)
  | _ => none

/-- The steps after the first name of a key; `fuel` bounds their number. -/
def laterSteps? : (fuel : Nat) → List Char → Option (List Step)
  | _, [] => some []
  | 0, _ :: _ => none
  | fuel + 1, c :: rest =>
    if c = '.' then
      let name := rest.takeWhile isNameChar
      if name.isEmpty then none
      else (laterSteps? fuel (rest.dropWhile isNameChar)).map (.entry (String.ofList name) :: ·)
    else if c = '[' then
      match index? rest with
      | some (i, rest) => (laterSteps? fuel rest).map (.item i :: ·)
      | none => none
    else none

/-- The steps of a key; a key that is not made of steps is one name. -/
def stepsOf (key : String) : List Step :=
  let s := key.toList
  let name := s.takeWhile isNameChar
  if name.isEmpty then [.entry key]
  else match laterSteps? s.length (s.dropWhile isNameChar) with
    | some steps => .entry (String.ofList name) :: steps
    | none => [.entry key]

/-! ## Layers -/

/-- The entries of a table; anything else has none. -/
def entries : Setting → List (String × Setting)
  | .table entries => entries
  | _ => []

/-- The items of a list; anything else has none. -/
def items : Setting → List Setting
  | .list items => items
  | _ => []

/-- The entry with the given name. -/
def get? (s : Setting) (name : String) : Option Setting :=
  s.entries.lookup name

/-- The table with the entry `name` set. -/
def set (s : Setting) (name : String) (value : Setting) : Setting :=
  if (s.get? name).isSome then
    .table (s.entries.map fun e => if e.1 = name then (name, value) else e)
  else .table (s.entries ++ [(name, value)])

/-- The position of an index in a list of the given length. A negative index counts from the end, and none
before the start has a position. -/
def position? (index : Int) (length : Nat) : Option Nat :=
  if 0 ≤ index then some index.toNat
  else if index.natAbs ≤ length then some (length - index.natAbs)
  else none

/-- The list with the item at `slot` set, filled up with nulls where it is too short. -/
def setItem (s : Setting) (slot : Nat) (value : Setting) : Setting :=
  .list ((s.items ++ List.replicate (slot + 1 - s.items.length) Setting.null).set slot value)

mutual

/-- A value laid over what was there: a table is merged, anything else replaces it. -/
def overlay : Setting → Option Setting → Setting
  | .table entries, existing => overlayEntries entries (existing.getD (.table []))
  | .null, _ => .null
  | .boolean b, _ => .boolean b
  | .number z, _ => .number z
  | .text t, _ => .text t
  | .list items, _ => .list items

/-- Entries laid over a table one after another. -/
def overlayEntries : List (String × Setting) → Setting → Setting
  | [], target => target
  | (name, value) :: rest, target =>
    overlayEntries rest (target.set name (overlay value (target.get? name)))

end

/-- Lays a value over a setting at the end of some steps, if each item on the way has a position. -/
def place? (value : Setting) : List Step → Setting → Option Setting
  | [], s => some s
  | [.entry name], s => some (s.set name (overlay value (s.get? name)))
  | [.item index], s => (position? index s.items.length).map fun slot => s.setItem slot value
  | .entry name :: rest, s => (place? value rest ((s.get? name).getD .null)).map (s.set name)
  | .item index :: rest, s => do
    let slot ← position? index s.items.length
    let item ← place? value rest (s.items.getD slot .null)
    some (s.setItem slot item)

/-- Lays the entries of a source over the settings of earlier sources. -/
def layer? (settings : Setting) (source : List (String × Setting)) : Option Setting :=
  source.foldlM (fun s e => place? e.2 (stepsOf e.1) s) settings

end Setting

end DidAdmission
