-- SUMMARY: Alphabets: the characters that stand for small numbers.

/-!
# Alphabets

An alphabet is a list of characters without repetition; a character stands for its position.
-/

namespace DidAdmission

/-- The characters that stand for 0, 1, 2 and so on. -/
abbrev Alphabet := List Char

namespace Alphabet

/-- The number a character stands for. -/
def value? (alphabet : Alphabet) (c : Char) : Option Nat :=
  List.idxOf? c alphabet

/-- The character that stands for a number. -/
def symbol (alphabet : Alphabet) (value : Nat) : Char :=
  alphabet.getD value '?'

/-- The digits and lower-case letters in order. -/
def lowerAlphanumeric : Alphabet := "0123456789abcdefghijklmnopqrstuvwxyz".toList

/-- The sixty-two digits and letters without zero, capital O and I, and small l. -/
def bitcoin : Alphabet := "123456789ABCDEFGHJKLMNPQRSTUVWXYZabcdefghijkmnopqrstuvwxyz".toList

/-- The same characters with the small letters first. -/
def flickr : Alphabet := "123456789abcdefghijkmnopqrstuvwxyzABCDEFGHJKLMNPQRSTUVWXYZ".toList

/-- The letters, the digits, plus and slash. -/
def base64 : Alphabet :=
  "ABCDEFGHIJKLMNOPQRSTUVWXYZabcdefghijklmnopqrstuvwxyz0123456789+/".toList

/-- The letters, the digits, minus and underscore, which need no escape in a URL. -/
def base64Url : Alphabet :=
  "ABCDEFGHIJKLMNOPQRSTUVWXYZabcdefghijklmnopqrstuvwxyz0123456789-_".toList

/-- The small letters and the digits from two to seven. -/
def base32 : Alphabet := "abcdefghijklmnopqrstuvwxyz234567".toList

/-- The digits and the small letters up to v. -/
def base32Hex : Alphabet := "0123456789abcdefghijklmnopqrstuv".toList

/-- The small letters and digits in an order made for speech. -/
def base32Z : Alphabet := "ybndrfg8ejkmcpqxot1uwisza345h769".toList

/-- The characters of the alphanumeric mode of two-dimensional bar codes. -/
def base45 : Alphabet := "0123456789ABCDEFGHIJKLMNOPQRSTUVWXYZ $%*+-./:".toList

end Alphabet

end DidAdmission
