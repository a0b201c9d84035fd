-- SUMMARY: Passing over a JSON value without reading it.
import DidAdmission.Json.Grammar

/-!
# Skimming

The value of a member nobody asks for is passed over: its grammar is checked, but neither the range of
its numbers nor the pairing of surrogates, and it may nest to any depth. The open arrays and objects
are kept on a list; `unwind` closes as many as it can and stops where the next value must start.
-/

namespace DidAdmission.Json

/-- An open array or object. -/
inductive Frame
  | list
  | object
deriving DecidableEq, Repr

/-- What is missing when a text ends inside a frame. -/
def Frame.endFault : Frame → Fault
  | .list => .endInList
  | .object => .endInObject

/-- What is missing when no comma follows an item or a member. -/
def Frame.commaFault : Frame → Fault
  | .list => .expectedListComma
  | .object => .expectedObjectComma

/-- The character that closes a frame. -/
def Frame.closer : Frame → Char
  | .list => ']'
  | .object => '}'

/-- Passes over what precedes a value in its frame: nothing in an array, the key in an object. -/
def Frame.skipKey : Frame → List Char → Except Fault (List Char)
  | .list, s => .ok s
  | .object, s =>
    match skipSpace s with
    | [] => .error .endInObject
    | '"' :: rest => do
      let rest ← skipString rest
      skipColon rest
    | _ => .error .keyNotString

/-- Passes over a value that is neither an array nor an object. -/
def skimScalar (s : List Char) : Except Fault (List Char) :=
  match s with
  | [] => .error .endInValue
  | c :: rest =>
    if c = 'n' then skipWord ['u', 'l', 'l'] rest
    else if c = 't' then skipWord ['r', 'u', 'e'] rest
    else if c = 'f' then skipWord ['a', 'l', 's', 'e'] rest
    else if c = '-' then (scanNumber .invalidNumber true rest).map (·.2)
    else if c.isDigit then (scanNumber .invalidNumber false (c :: rest)).map (·.2)
    else if c = '"' then skipString rest
    else .error .expectedValue

/-- Closes frames up to the start of the next value. `afterValue` tells whether a value has just ended,
so that a comma may follow. Answers the frames still open, none when the outermost value has ended. -/
def unwind (afterValue : Bool) :
    (frames : List Frame) → List Char → Except Fault (List Frame × List Char)
  | [], s => .ok ([], s)
  | frame :: frames, s =>
    match skipSpace s with
    | [] => .error frame.endFault
    | c :: rest =>
      if c = ',' ∧ afterValue then (frame.skipKey rest).map fun s => (frame :: frames, s)
      else if c = frame.closer then unwind true frames rest
      else if afterValue then .error frame.commaFault
      else (frame.skipKey (c :: rest)).map fun s => (frame :: frames, s)

/-- Passes over the value at the start of a text and over the rest of the open frames. -/
def skimWithin : (fuel : Nat) → (frames : List Frame) → List Char → Except Fault (List Char)
  | 0, _, _ => .error .endInValue
  | fuel + 1, frames, s => do
    let (frames, rest) ←
      match skipSpace s with
      | [] => .error .endInValue
      | c :: rest =>
        if c = '[' then unwind false (.list :: frames) rest
        else if c = '{' then unwind false (.object :: frames) rest
        else do
          let rest ← skimScalar (c :: rest)
          unwind true frames rest
    match frames with
    | [] => .ok rest
    | _ => skimWithin fuel frames rest

/-- Passes over the value at the start of a text. -/
def skim (s : List Char) : Except Fault (List Char) :=
  skimWithin (s.length + 1) [] s

end DidAdmission.Json
