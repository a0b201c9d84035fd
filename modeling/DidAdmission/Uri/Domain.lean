-- SUMMARY: Domains: their folded form, and their form in ASCII.
import DidAdmission.Text.Blank
import DidAdmission.Text.Canonical
import DidAdmission.Text.Direction
import DidAdmission.Text.Folding
import DidAdmission.Uri.Punycode

/-!
# Domains

A domain is a list of labels, separated by dots. Two domains are the same when their folded forms are, so
a domain is folded and brought into canonical form before it is cut into labels. A label beyond ASCII is
written in Punycode behind a mark; a label that comes with the mark has to be the Punycode of a label that
is folded already.
-/

namespace DidAdmission.Domain

/-- The mark of a label written in Punycode. -/
def punycodeMark : List Char := ['x', 'n', '-', '-']

/-- The longest label beyond ASCII that is written in Punycode. -/
def maxLabel : Nat := 1000

/-- The longest Punycode that is read. -/
def maxCode : Nat := 2000

/-- Is a character of the label beyond ASCII? -/
def isBeyondAscii (label : List Char) : Bool :=
  label.any fun c => 0x80 ≤ c.toNat

/-- The folded form of a text, in canonical form; none when a character cannot be folded. -/
def folded? (cs : List Char) : Option (List Char) :=
  ((cs.flatMap Text.decompose).mapM Text.fold?).map fun pieces => Text.canonical pieces.flatten

/-- The label that a Punycode stands for. It needs a character beyond ASCII, for other labels are written
without Punycode, and it has to be folded. -/
def readCode? (code : List Char) : Option (List Char) :=
  if code.isEmpty ∨ code.getLast? = some '-' ∨ maxCode < code.length then none
  else match Punycode.decode? code with
    | none => none
    | some label =>
      if isBeyondAscii label ∧ folded? label = some label ∧ (Text.dropLead? punycodeMark label).isNone then
        some label
      else none

/-- The label that a folded label stands for. -/
def plain? (label : List Char) : Option (List Char) :=
  match Text.dropLead? punycodeMark label with
  | none => some label
  | some code => readCode? code

/-- May the label stand in a domain? It starts with no mark, and its joiners have a meaning. -/
def isSound (label : List Char) : Bool :=
  !label.head?.any Text.isMark && Text.joinersFit [] label
    && (!isBeyondAscii label || label.length ≤ maxLabel)

/-- Where one label runs from right to left, the direction of every label has to be plain. -/
def directionsFit (labels : List (List Char)) : Bool :=
  !labels.any (fun label => label.any fun c => (Text.Direction.of c).turns)
    || labels.all Text.Direction.isPlain

def asciiLabel (label : List Char) : List Char :=
  if isBeyondAscii label then punycodeMark ++ Punycode.encode label else label

def ascii? (cs : List Char) : Option (List Char) :=
  match folded? cs with
  | none => none
  | some text =>
    match (Text.split '.' text).mapM plain? with
    | none => none
    | some labels =>
      if labels.all isSound ∧ directionsFit labels then
        some (['.'].intercalate (labels.map asciiLabel))
      else none

end DidAdmission.Domain
