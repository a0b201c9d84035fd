-- SUMMARY: Multibase: texts whose first character names the base of the rest.
import DidAdmission.Codec.Base58
import DidAdmission.Codec.Base64
import DidAdmission.Codec.BitGroups
import DidAdmission.Codec.Hex
import DidAdmission.Text.Blank

/-!
# Multibase

The first character of a text is the code of a base and the rest is written in that base. `Base.ofCode?`
knows the codes and `Base.decode?` reads the rest. Bytes are written in Base58, under the code `z`.
-/

namespace DidAdmission.Multibase

/-- Why a text is not multibase. -/
inductive Fault
  | unknownCode (code : Char)
  | invalidText
deriving DecidableEq, Repr

def Fault.message : Fault → String
  | .unknownCode code => "Unknown base code: " ++ String.ofList [code]
  | .invalidText => "Invalid base string"

/-- The bases that have a code. -/
inductive Base
  | identity
  | base2
  | base8
  | base10
  | base16
  | base32
  | base32Padded
  | base32Hex
  | base32HexPadded
  | base32Z
  | base36
  | base45
  | base58Flickr
  | base58Bitcoin
  | base64
  | base64Padded
  | base64Url
  | base64UrlPadded
  | base256Emoji
deriving DecidableEq, Repr

/-- The codes, each with its base. Where a base has a code in each case, both read either case. -/
def codes : List (Char × Base) :=
  [('\x00', .identity), ('0', .base2), ('7', .base8), ('9', .base10), ('f', .base16),
   ('F', .base16), ('b', .base32), ('B', .base32), ('c', .base32Padded), ('C', .base32Padded),
   ('v', .base32Hex), ('V', .base32Hex), ('t', .base32HexPadded), ('T', .base32HexPadded),
   ('h', .base32Z), ('k', .base36), ('K', .base36), ('R', .base45), ('Z', .base58Flickr),
   ('z', .base58Bitcoin), ('m', .base64), ('M', .base64Padded), ('u', .base64Url),
   ('U', .base64UrlPadded), ('🚀', .base256Emoji)]

def Base.ofCode? (code : Char) : Option Base :=
  codes.lookup code

/-- The symbols of the emoji base: one for each byte. -/
def emoji : Alphabet :=
  ("🚀🪐☄🛰🌌🌑🌒🌓🌔🌕🌖🌗🌘🌍🌏🌎🐉☀💻🖥💾💿😂❤😍🤣😊🙏💕😭😘👍😅👏😁🔥🥰💔💖💙😢🤔😆🙄💪😉☺👌🤗💜😔😎😇🌹🤦🎉💞✌✨🤷😱😌🌸🙌"
    ++ "😋💗💚😏💛🙂💓🤩😄😀🖤😃💯🙈👇🎶😒🤭❣😜💋👀😪😑💥🙋😞😩😡🤪👊🥳😥🤤👉💃😳✋😚😝😴🌟😬🙃🍀🌷😻😓⭐✅🥺🌈😈🤘💦✔😣🏃💐☹🎊💘"
    ++ "😠☝😕🌺🎂🌻😐🖕💝🙊😹🗣💫💀👑🎵🤞😛🔴😤🌼😫⚽🤙☕🏆🤫👈😮🙆🍻🍃🐶💁😲🌿🧡🎁⚡🌞🎈❌✊👋😰🤨😶🤝🚶💰🍓💢🤟🙁🚨💨🤬✈🎀🍺🤓😙"
    ++ "💟🌱😖👶🥴▶➡❓💎💸⬇😨🌚🦋😷🕺⚠🙅😟😵👎🤲🤠🤧📌🔵💅🧐🐾🍒😗🤑🌊🤯🐷☎💧😯💆👆🎤🙇🍑❄🌴💣🐸💌📍🥀🤢👅💡💩👐📸👻🤐🤮🎼🥵🚩"
    ++ "🍎🍊👼💍📣🥂").toList

/-- The values of characters that must all be symbols. -/
def values? (alphabet : Alphabet) (s : List Char) : Option (List Nat) :=
  s.mapM alphabet.value?

/-- Letters in lower case, for bases that read either case. -/
def lower (s : List Char) : List Char :=
  s.map Char.toLower

/-- Symbols of `width` bits without padding. -/
def decodeBits? (alphabet : Alphabet) (width : Nat) (s : List Char) : Option Bytes :=
  (values? alphabet s).bind (BitGroups.decode? width)

/-- Symbols of six bits without padding. -/
def decodeSextets? (alphabet : Alphabet) (s : List Char) : Option Bytes :=
  (values? alphabet s).bind Base64.joinSextets

/-- A big number in a base. -/
def decodeRadix? (alphabet : Alphabet) (s : List Char) : Option Bytes :=
  (values? alphabet s).map (Radix.decode alphabet.length)

/-- Three symbols make two bytes; of two symbols at the end the low byte counts. -/
def joinBase45 : List Nat → Option Bytes
  | a :: b :: c :: rest =>
    let n := a + b * 45 + c * 2025
    if n < 65536 then
      (joinBase45 rest).map fun bytes => UInt8.ofNat (n / 256) :: UInt8.ofNat n :: bytes
    else none
  | [a, b] => some [UInt8.ofNat (a + b * 45)]
  | [_] => none
  | [] => some []

/-- The bytes that a text in a base stands for. -/
def Base.decode? (base : Base) (s : List Char) : Option Bytes :=
  match base with
  | .identity => some (Bytes.ofChars s)
  | .base2 => decodeBits? ['0', '1'] 1 s
  | .base8 => decodeBits? (Alphabet.lowerAlphanumeric.take 8) 3 s
  | .base10 => decodeRadix? (Alphabet.lowerAlphanumeric.take 10) s
  | .base16 => (Hex.decode s).toOption
  | .base32 => decodeBits? Alphabet.base32 5 (lower s)
  | .base32Padded => BitGroups.decodePadded? 8 (decodeBits? Alphabet.base32 5) (lower s)
  | .base32Hex => decodeBits? Alphabet.base32Hex 5 (lower s)
  | .base32HexPadded => BitGroups.decodePadded? 8 (decodeBits? Alphabet.base32Hex 5) (lower s)
  | .base32Z => decodeBits? Alphabet.base32Z 5 s
  | .base36 => decodeRadix? Alphabet.lowerAlphanumeric (lower s)
  | .base45 => (values? Alphabet.base45 (s.map Char.toUpper)).bind joinBase45
  | .base58Flickr => decodeRadix? Alphabet.flickr s
  | .base58Bitcoin => decodeRadix? Alphabet.bitcoin s
  | .base64 => decodeSextets? Alphabet.base64 s
  | .base64Padded => BitGroups.decodePadded? 4 (decodeSextets? Alphabet.base64) s
  | .base64Url => decodeSextets? Alphabet.base64Url s
  | .base64UrlPadded => BitGroups.decodePadded? 4 (decodeSextets? Alphabet.base64Url) s
  | .base256Emoji => (values? emoji s).map (·.map UInt8.ofNat)

/-- The bytes that a text stands for. -/
def decode : List Char → Except Fault Bytes
  | [] => .error .invalidText
  | code :: s =>
    match Base.ofCode? code with
    | none => .error (.unknownCode code)
    | some base =>
      match base.decode? s with
      | some bytes => .ok bytes
      | none => .error .invalidText

/-- The text that stands for bytes: Base58 under its code. -/
def encode (b : Bytes) : List Char :=
  'z' :: Base58.encode b

end DidAdmission.Multibase
