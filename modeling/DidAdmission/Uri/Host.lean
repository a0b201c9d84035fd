-- SUMMARY: Hosts: names, and addresses of 32 and 128 bits.
import DidAdmission.Text.Blank
import DidAdmission.Uri.Domain
import DidAdmission.Uri.Percent

/-!
# Hosts

The host of a special scheme is a domain: its bytes are decoded, and the domain is written in ASCII; a
domain whose last label is a number is an address of 32 bits.
Other hosts are kept as written. A host in brackets is an address of 128 bits in either case.
-/

namespace DidAdmission

/-- A host. -/
inductive Host
  | name (text : String)
  | address32 (value : Nat)
  | address128 (pieces : List Nat)
deriving DecidableEq, Repr

namespace Host

/-! ## Addresses of 32 bits -/

/-- The number of digits in a base, none of which may be foreign to it; no digits are zero. -/
def numberIn? (base : Nat) (cs : List Char) : Option Nat :=
  (cs.mapM Percent.digit?).bind fun digits =>
    if digits.all (· < base) then some (Digits.toNat base digits) else none

/-- The number of one part of an address: hexadecimal after `0x`, octal after `0`, else decimal. -/
def part? (cs : List Char) : Option Nat :=
  match cs with
  | [] => none
  | '0' :: c :: rest =>
    if c = 'x' ∨ c = 'X' then numberIn? 16 rest else numberIn? 8 (c :: rest)
  | _ => numberIn? 10 cs

/-- The labels of a domain, without an empty one at its end. -/
def labels (domain : List Char) : List (List Char) :=
  let all := Text.split '.' domain
  if all.getLast? = some [] ∧ 1 < all.length then all.dropLast else all

/-- Is the last label of a domain a number? -/
def endsInNumber (domain : List Char) : Bool :=
  match (labels domain).getLast? with
  | none => false
  | some last => (!last.isEmpty && last.all Char.isDigit) || (part? last).isSome

/-- The address that the parts of a domain write: each part but the last is one byte. -/
def address32? (domain : List Char) : Option Nat :=
  match (labels domain).mapM part? with
  | none => none
  | some parts =>
    match parts.getLast? with
    | none => none
    | some last =>
      let lead := parts.dropLast
      if 3 < lead.length ∨ lead.any (255 < ·) ∨ Nat.pow 256 (4 - lead.length) ≤ last then none
      else some (lead.foldl (fun n x => n * 256 + x) 0 * Nat.pow 256 (4 - lead.length) + last)

/-- The text of an address of 32 bits. -/
def address32Text (n : Nat) : String :=
  ".".intercalate ([n / Nat.pow 2 24, n / Nat.pow 2 16 % 256, n / Nat.pow 2 8 % 256, n % 256].map toString)

/-! ## Addresses of 128 bits -/

/-- A group of one to four hexadecimal digits. -/
def group? (cs : List Char) : Option Nat :=
  if cs.isEmpty ∨ 4 < cs.length then none else numberIn? 16 cs

/-- A decimal byte without leading zeros. -/
def decimalByte? (cs : List Char) : Option Nat :=
  match cs with
  | [] => none
  | ['0'] => some 0
  | '0' :: _ => none
  | _ =>
    if cs.length ≤ 3 then (numberIn? 10 cs).bind fun n => if n ≤ 255 then some n else none
    else none

/-- Two groups written as four decimal bytes. -/
def dottedGroups? (cs : List Char) : Option (List Nat) :=
  match (Text.split '.' cs).mapM decimalByte? with
  | some [a, b, c, d] => some [a * 256 + b, c * 256 + d]
  | _ => none

/-- The groups between colons; `last` tells whether the text ends the address, where the last group may
be dotted. -/
def groups? (last : Bool) (cs : List Char) : Option (List Nat) :=
  if cs.isEmpty then some []
  else
    let texts := Text.split ':' cs
    match texts.getLast? with
    | none => none
    | some final =>
      let lead := texts.dropLast.mapM group?
      let rest :=
        if last ∧ final.contains '.' then dottedGroups? final else (group? final).map ([·])
      match lead, rest with
      | some lead, some rest => some (lead ++ rest)
      | _, _ => none

/-- What stands before and after the first double colon. -/
def splitDoubleColon? : List Char → Option (List Char × List Char)
  | ':' :: ':' :: rest => some ([], rest)
  | c :: rest => (splitDoubleColon? rest).map fun (before, after) => (c :: before, after)
  | [] => none

/-- The eight pieces of an address; a double colon stands for one or more zero pieces. -/
def address128? (cs : List Char) : Option (List Nat) :=
  match splitDoubleColon? cs with
  | some (before, after) =>
    match groups? false before, groups? true after with
    | some lead, some rest =>
      if lead.length + rest.length ≤ 7 then
        some (lead ++ List.replicate (8 - lead.length - rest.length) 0 ++ rest)
      else none
    | _, _ => none
  | none =>
    match groups? true cs with
    | some pieces => if pieces.length = 8 then some pieces else none
    | none => none

/-- The number of zeros at the start of a list. -/
def zerosAt (pieces : List Nat) : Nat :=
  (pieces.takeWhile (· == 0)).length

/-- The start and the length of the first longest run of two or more zeros. -/
def longestZeros (pieces : List Nat) : Option (Nat × Nat) :=
  let runs := (List.range pieces.length).map fun i => (i, zerosAt (pieces.drop i))
  runs.foldl
    (fun best run =>
      if run.2 < 2 then best
      else match best with
        | none => some run
        | some b => if b.2 < run.2 then some run else some b)
    none

/-- Pieces in hexadecimal, separated by colons. -/
def piecesText (pieces : List Nat) : String :=
  ":".intercalate (pieces.map fun n => String.ofList (Nat.toDigits 16 n))

/-- The text of an address of 128 bits. -/
def address128Text (pieces : List Nat) : String :=
  match longestZeros pieces with
  | none => piecesText pieces
  | some (start, length) =>
    piecesText (pieces.take start) ++ "::" ++ piecesText (pieces.drop (start + length))

/-! ## Names -/

def text : Host → String
  | .name s => s
  | .address32 n => address32Text n
  | .address128 pieces => "[" ++ address128Text pieces ++ "]"

/-- The characters no host may contain. -/
def isForbidden (c : Char) : Bool :=
  ['\x00', '\t', '\n', '\r', ' ', '#', '/', ':', '<', '>', '?', '@', '[', '\\', ']', '^', '|'].contains c

/-- The characters no domain may contain. -/
def isForbiddenInDomain (c : Char) : Bool :=
  isForbidden c || c == '%' || c.toNat < 0x20 || c.toNat == 0x7F

/-- The domain that a host of a special scheme stands for. -/
def domain? (cs : List Char) : Option Host :=
  match String.fromUTF8? (ByteArray.mk (Percent.decode cs).toArray) with
  | none => none
  | some decoded =>
    match Domain.ascii? decoded.toList with
    | none => none
    | some domain =>
      if domain.isEmpty ∨ domain.any isForbiddenInDomain then none
      else if endsInNumber domain then (address32? domain).map .address32
      else some (.name (String.ofList domain))

/-- Reads a host; `special` tells whether the scheme takes domains. -/
def parse? (special : Bool) (cs : List Char) : Option Host :=
  match cs with
  | '[' :: rest =>
    match Text.dropTail? [']'] rest with
    | some inner => (address128? inner).map .address128
    | none => none
  | _ =>
    if special then domain? cs
    else if cs.any isForbidden then none
    else some (.name (String.ofList (Percent.encode Percent.inOpaque cs)))

end Host

end DidAdmission
