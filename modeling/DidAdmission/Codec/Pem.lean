-- SUMMARY: PEM armor around a Base64 body.
import DidAdmission.Codec.Base64
import DidAdmission.Text.Blank

/-!
# PEM armor

A text is cut into lines, blanks at the ends of lines and blank lines do not count. The first line opens
a block with a label, the next END line must close it with the same label and be the last line, and the
lines between them, joined, are Base64.
-/

namespace DidAdmission.Pem

/-- Why a text is not one armored block. -/
inductive Fault
  | empty
  | noBegin
  | labelMismatch (opened closed : String)
  | trailingData
  | noEnd
  | body (fault : Base64.Fault)
deriving DecidableEq, Repr

def Fault.message : Fault → String
  | .empty => "empty PEM"
  | .noBegin => "missing PEM BEGIN line"
  | .labelMismatch opened closed =>
    "PEM label mismatch: BEGIN " ++ opened ++ ", END " ++ closed
  | .trailingData => "trailing data after PEM END line"
  | .noEnd => "missing PEM END line"
  | .body fault => fault.message

/-- The lines of a text that are not blank, without the blanks at their ends. -/
def lines (s : List Char) : List (List Char) :=
  ((Text.split '\n' s).map Text.trim).filter fun line => !line.isEmpty

/-- The label of a line `-----<keyword> <label>-----`. -/
def label? (keyword : List Char) (line : List Char) : Option (List Char) :=
  (Text.dropLead? ("-----".toList ++ keyword ++ [' ']) line).bind
    (Text.dropTail? "-----".toList)

/-- The label of a line that opens a block. -/
def beginLabel? (line : List Char) : Option (List Char) :=
  label? "BEGIN".toList line

/-- The label of a line that closes a block. -/
def endLabel? (line : List Char) : Option (List Char) :=
  label? "END".toList line

/-- The body of an open block up to the line that closes it. -/
def body (opened : List Char) : List (List Char) → Except Fault (List Char)
  | [] => .error .noEnd
  | line :: rest =>
    match endLabel? line with
    | some closed =>
      if closed ≠ opened then
        .error (.labelMismatch (String.ofList opened) (String.ofList closed))
      else if rest.isEmpty then .ok []
      else .error .trailingData
    | none => (body opened rest).map (line ++ ·)

def decode (s : List Char) : Except Fault Bytes :=
  match lines s with
  | [] => .error .empty
  | first :: rest =>
    match beginLabel? first with
    | none => .error .noBegin
    | some opened =>
      match body opened rest with
      | .error fault => .error fault
      | .ok text => (Base64.decode text).mapError .body

/-- A block with one line for each part of its body. -/
def armor (label : List Char) (parts : List (List Char)) : List (List Char) :=
  ("-----BEGIN ".toList ++ label ++ "-----".toList) :: parts
    ++ ["-----END ".toList ++ label ++ "-----".toList]

end DidAdmission.Pem
