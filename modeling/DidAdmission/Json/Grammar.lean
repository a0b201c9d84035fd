-- SUMMARY: The punctuation of JSON arrays and objects, shared by everything that reads them.
import DidAdmission.Json.Lexeme

/-!
# Arrays and objects

What stands between the items of an array and the members of an object is read here once, for every
reader that differs only in what it does with an item or a member. `nextItem` and `nextMember` find the
next one or the closing bracket; `foldItems` and `foldMembers` run through all of them with a state.
Their fuel is bounded by the length of the text, since every item and every member takes a character.
-/

namespace DidAdmission.Json

/-- The start of the next item, or nothing before the closing bracket. -/
def nextItem (first : Bool) (s : List Char) : Except Fault (Option (List Char)) :=
  match skipSpace s with
  | [] => .error .endInList
  | c :: rest =>
    if c = ']' then .ok none
    else if first then .ok (some (c :: rest))
    else if c = ',' then
      match skipSpace rest with
      | ']' :: _ => .error .trailingComma
      | next => .ok (some next)
    else .error .expectedListComma

/-- Passes over the closing bracket of an array. -/
def closeArray (s : List Char) : Except Fault (List Char) :=
  match skipSpace s with
  | [] => .error .endInList
  | ']' :: rest => .ok rest
  | ',' :: rest =>
    match skipSpace rest with
    | ']' :: _ => .error .trailingComma
    | _ => .error .trailingCharacters
  | _ => .error .trailingCharacters

/-- The start of the next key, after its quote, or nothing before the closing brace. -/
def nextMember (first : Bool) (s : List Char) : Except Fault (Option (List Char)) :=
  match skipSpace s with
  | [] => .error .endInObject
  | '}' :: _ => .ok none
  | c :: rest =>
    if first then
      if c = '"' then .ok (some rest) else .error .keyNotString
    else if c = ',' then
      match skipSpace rest with
      | [] => .error .endInValue
      | '"' :: key => .ok (some key)
      | '}' :: _ => .error .trailingComma
      | _ => .error .keyNotString
    else .error .expectedObjectComma

/-- Passes over the colon between a key and its value. -/
def skipColon (s : List Char) : Except Fault (List Char) :=
  match skipSpace s with
  | [] => .error .endInObject
  | ':' :: rest => .ok rest
  | _ => .error .expectedColon

/-- Runs through the items of an array up to and including its closing bracket. -/
def foldItems {σ ε : Type} (lift : Fault → ε)
    (step : σ → List Char → Except ε (σ × List Char)) :
    (fuel : Nat) → (first : Bool) → σ → List Char → Except ε (σ × List Char)
  | 0, _, _, _ => .error (lift .endInList)
  | fuel + 1, first, state, s =>
    match nextItem first s with
    | .error fault => .error (lift fault)
    | .ok none =>
      match closeArray s with
      | .error fault => .error (lift fault)
      | .ok rest => .ok (state, rest)
    | .ok (some item) =>
      match step state item with
      | .error e => .error e
      | .ok (state, rest) => foldItems lift step fuel false state rest

/-- Runs through the members of an object up to and including its closing brace. The step is given
the key and the text after it, which starts before the colon. -/
def foldMembers {σ ε : Type} (lift : Fault → ε)
    (step : σ → String → List Char → Except ε (σ × List Char)) :
    (fuel : Nat) → (first : Bool) → σ → List Char → Except ε (σ × List Char)
  | 0, _, _, _ => .error (lift .endInObject)
  | fuel + 1, first, state, s =>
    match nextMember first s with
    | .error fault => .error (lift fault)
    | .ok none => .ok (state, (skipSpace s).drop 1)
    | .ok (some quoted) =>
      match readString quoted with
      | .error fault => .error (lift fault)
      | .ok (key, rest) =>
        match step state key rest with
        | .error e => .error e
        | .ok (state, rest) => foldMembers lift step fuel false state rest

/-- Only blanks may follow the value of a whole text. -/
def endOfText (s : List Char) : Except Fault Unit :=
  match skipSpace s with
  | [] => .ok ()
  | _ => .error .trailingCharacters

end DidAdmission.Json
