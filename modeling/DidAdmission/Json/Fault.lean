-- SUMMARY: The ways in which a text fails to be JSON, or fails to have an expected shape.
import DidAdmission.Number.Layout
import DidAdmission.Text.Quoted

/-!
# Faults of JSON texts

A `Fault` is the first place where a text leaves the grammar of JSON. A `Mismatch` is a value that
does not have the shape asked for: a fault on the way, another type, or a member, an item or a name
that is missing, repeated or unknown.
-/

namespace DidAdmission.Json

/-- The first departure of a text from the grammar. -/
inductive Fault
  | endInValue
  | endInObject
  | endInList
  | endInString
  | expectedValue
  | expectedIdent
  | invalidNumber
  | numberOutOfRange
  | keyNotString
  | expectedColon
  | expectedObjectComma
  | expectedListComma
  | trailingComma
  | trailingCharacters
  | controlCharacter
  | invalidEscape
  | unfinishedSurrogate
  | loneSurrogate
  | tooDeep
deriving DecidableEq, Repr

def Fault.message : Fault → String
  | .endInValue => "EOF while parsing a value"
  | .endInObject => "EOF while parsing an object"
  | .endInList => "EOF while parsing a list"
  | .endInString => "EOF while parsing a string"
  | .expectedValue => "expected value"
  | .expectedIdent => "expected ident"
  | .invalidNumber => "invalid number"
  | .numberOutOfRange => "number out of range"
  | .keyNotString => "key must be a string"
  | .expectedColon => "expected `:`"
  | .expectedObjectComma => "expected `,` or `\x7d`"
  | .expectedListComma => "expected `,` or `]`"
  | .trailingComma => "trailing comma"
  | .trailingCharacters => "trailing characters"
  | .controlCharacter => "control character (\\u0000-\\u001F) found while parsing a string"
  | .invalidEscape => "invalid escape"
  | .unfinishedSurrogate => "unexpected end of hex escape"
  | .loneSurrogate => "lone leading surrogate in hex escape"
  | .tooDeep => "recursion limit exceeded"

/-- A number: an integer of 64 bits, or a binary floating-point number. -/
inductive Number
  | integer (value : Int)
  | real (value : Binary64)
deriving DecidableEq, Repr

/-- What stands where something else was expected. -/
inductive Found
  | null
  | boolean (value : Bool)
  | number (value : Number)
  | text (value : String)
  | sequence
  | map
deriving DecidableEq, Repr

/-- Real numbers in a message are positional from `0.00001` up to sixteen digits before the point. -/
def Found.layout : Layout :=
  { positionalFrom := -5, positionalBelow := 16 }

/-- The wording for what was found. -/
def Found.message : Found → String
  | .null => "null"
  | .boolean b => "boolean `" ++ (if b then "true" else "false") ++ "`"
  | .number (.integer i) => "integer `" ++ toString i ++ "`"
  | .number (.real x) => "floating point `" ++ Found.layout.real x ++ "`"
  | .text s => "string " ++ Text.quote s
  | .sequence => "sequence"
  | .map => "map"

/-- Why a value, or a text, does not have the shape asked for. -/
inductive Mismatch
  | malformed (fault : Fault)
  | mistyped (found : Found) (expected : String)
  | missingMember (name : String)
  | repeatedMember (name : String)
  | unknownVariant (name : String) (known : List String)
  | wrongLength (length : Nat) (expected : String)
deriving DecidableEq, Repr

/-- A choice of names: one, two joined by a word, or a list. -/
def choiceMessage : List String → String
  | [] => "there are no variants"
  | [a] => "expected `" ++ a ++ "`"
  | [a, b] => "expected `" ++ a ++ "` or `" ++ b ++ "`"
  | names => "expected one of " ++ ", ".intercalate (names.map fun n => "`" ++ n ++ "`")

def Mismatch.message : Mismatch → String
  | .malformed fault => fault.message
  | .mistyped found expected => "invalid type: " ++ found.message ++ ", expected " ++ expected
  | .missingMember name => "missing field `" ++ name ++ "`"
  | .repeatedMember name => "duplicate field `" ++ name ++ "`"
  | .unknownVariant name known =>
    "unknown variant `" ++ name ++ "`, " ++ choiceMessage known
  | .wrongLength length expected =>
    "invalid length " ++ toString length ++ ", expected " ++ expected

end DidAdmission.Json
