-- SUMMARY: Percent-encoding, and the characters each part of a URI encodes.
import DidAdmission.Bytes

/-!
# Percent-encoding

Controls and everything above ASCII are always encoded, byte by byte; each part of a URI adds the
characters that would end it or be mistaken there. An existing `%` is never encoded, so that encoded
text is left as it is.
-/

namespace DidAdmission.Percent

/-- The digit of a value below sixteen, in upper case. -/
def upperDigit (n : Nat) : Char :=
  if n < 10 then Char.ofNat (48 + n) else Char.ofNat (55 + n)

def encodeByte (b : UInt8) : List Char :=
  ['%', upperDigit (b.toNat / 16), upperDigit (b.toNat % 16)]

/-- The characters that are encoded everywhere. -/
def isControl (c : Char) : Bool :=
  c.toNat < 0x20 || 0x7F ≤ c.toNat

/-- A character, encoded if it is a control or `reserved`. -/
def encodeChar (reserved : Char → Bool) (c : Char) : List Char :=
  if isControl c || reserved c then (String.utf8EncodeChar c).flatMap encodeByte else [c]

/-- A text with its controls and `reserved` characters encoded. -/
def encode (reserved : Char → Bool) (cs : List Char) : List Char :=
  cs.flatMap (encodeChar reserved)

/-- A text without characters that need encoding stays as it is. -/
theorem encode_eq_self {reserved : Char → Bool} {cs : List Char}
    (h : ∀ c ∈ cs, isControl c = false ∧ reserved c = false) : encode reserved cs = cs := by
  induction cs with
  | nil => rfl
  | cons c cs ih =>
    obtain ⟨hc, hr⟩ := h c (by simp)
    have hcs : encode reserved cs = cs := ih fun d hd => h d (by simp [hd])
    simp only [encode, List.flatMap_cons] at hcs ⊢
    simp [encodeChar, hc, hr, hcs]

/-! ## Parts of a URI -/

/-- Nothing but controls: opaque paths and opaque hosts. -/
def inOpaque (_ : Char) : Bool := false

/-- The characters encoded in a fragment. -/
def inFragment (c : Char) : Bool :=
  c == ' ' || c == '"' || c == '<' || c == '>' || c.toNat == 0x60

/-- The characters encoded in a query. -/
def inQuery (c : Char) : Bool :=
  c == ' ' || c == '"' || c == '#' || c == '<' || c == '>'

/-- The characters encoded in the query of a special scheme. -/
def inSpecialQuery (c : Char) : Bool :=
  inQuery c || c == '\''

/-- The characters encoded in a segment of a path. -/
def inPath (c : Char) : Bool :=
  inFragment c || c == '#' || c == '?' || c == '{' || c == '}'

/-- The characters encoded in a user name or a password. -/
def inUserinfo (c : Char) : Bool :=
  inPath c || c == '/' || c == ':' || c == ';' || c == '=' || c == '@' || c == '[' || c == '\\'
    || c == ']' || c == '^' || c == '|'

/-! ## Decoding -/

/-- The value of a hexadecimal digit. -/
def digit? (c : Char) : Option Nat :=
  if '0' ≤ c ∧ c ≤ '9' then some (c.toNat - 48)
  else if 'a' ≤ c ∧ c ≤ 'f' then some (c.toNat - 87)
  else if 'A' ≤ c ∧ c ≤ 'F' then some (c.toNat - 55)
  else none

/-- The bytes of a text with its encoded bytes decoded, `skip` characters of one already read. -/
def decodeFrom : (skip : Nat) → List Char → Bytes
  | _, [] => []
  | skip + 1, _ :: cs => decodeFrom skip cs
  | 0, c :: cs =>
    if c = '%' then
      match cs with
      | a :: b :: _ =>
        match digit? a, digit? b with
        | some high, some low => UInt8.ofNat (high * 16 + low) :: decodeFrom 2 cs
        | _, _ => 0x25 :: decodeFrom 0 cs
      | _ => 0x25 :: decodeFrom 0 cs
    else String.utf8EncodeChar c ++ decodeFrom 0 cs

/-- The bytes of a text with its encoded bytes decoded. -/
def decode (cs : List Char) : Bytes :=
  decodeFrom 0 cs

end DidAdmission.Percent
